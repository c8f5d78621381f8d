import Stencil.Run.Report

/-!
# Environments

An environment holds what compilations and runs have in common: where included files are looked for,
the escaping styles, what runs the scripts, and the encoding of files. What is given with a single
request takes precedence.

Adding a style makes another registry: runs that have begun keep theirs, and scripts that were
compiled before see the new style when they run next.
-/

namespace Stencil

/-- What compilations and runs have in common. -/
structure Environment where
  includePath : List Text
  /-- What gives included files in place of the include path. -/
  loader : Option (FileTree → Loader)
  escapes : Registry
  executor : Executor
  encoding : Text

/-- A file with a template: a path, or a stream with its text and perhaps a name. -/
inductive SourceFile where
  | path (p : Text)
  | stream (text : Text) (name : Option Text)
  deriving DecidableEq, Repr

/-- What is to be compiled. -/
structure CompileRequest where
  source : Option Text
  sourceFile : Option SourceFile
  /-- Directories for this compilation only. -/
  includePath : Option IncludePath
  reportedName : Option Text
  deriving DecidableEq, Repr

/-- The text of a template, the name that it goes by, and the path that it was read from. -/
structure SourceText where
  text : Text
  name : Text
  origin : Option Text
  deriving DecidableEq, Repr

/-- What a compilation leaves behind. -/
structure Compilation where
  result : Except Failure Script
  log : List LogRecord

namespace Environment

/-- The usual environment. -/
def standard : Environment := ⟨[], none, .standard, .standard, Config.usualEncoding⟩

/-- The environment with a style more, or with another style under a name. -/
def addStyle (env : Environment) (name : Text) (style : Style) : Environment :=
  { env with escapes := env.escapes.withStyle name style }

/-- An environment as it is written. -/
def written (env : Environment) : Text :=
  "<Environment include_path=[".toList ++
    Text.join ", ".toList (env.includePath.map Text.quoted) ++ "] escapes=".toList ++
    env.escapes.sortedNames ++ ['>']

/-! ## Compiling -/

/-- The name to report: one that is given and not empty, or another. -/
def reportedOr (given : Option Text) (other : Text) : Text :=
  (given.filter (! ·.isEmpty)).getD other

/-- What is said of a template that is not there. -/
def noTemplate (p : Path) : Failure :=
  .template (.notFound ("Template file '".toList ++ p.text ++ "' not found".toList))

/-- The text to be compiled. -/
def readSource (env : Environment) (tree : FileTree) (r : CompileRequest) :
    Except Failure SourceText :=
  match r.source, r.sourceFile with
  | some text, none => .ok ⟨text, reportedOr r.reportedName "<string>".toList, none⟩
  | none, some (.stream text name) =>
    .ok ⟨text, reportedOr r.reportedName (name.getD "<stream>".toList), none⟩
  | none, some (.path given) => do
    let p := Path.ofText given
    if ! (← (tree.isFile p.text).mapError .file) then throw (noTemplate p)
    let text ← (tree.readText p.text env.encoding).mapError .file
    return ⟨text, reportedOr r.reportedName p.text, some p.text⟩
  | _, _ => .error .sourceCount

/-- The loader for a compilation. -/
def loaderFor (env : Environment) (tree : FileTree) (includePath : Option IncludePath) : Loader :=
  match includePath, env.loader with
  | some path, _ => (SearchPath.new path.items env.encoding true).loader tree
  | none, some loader => loader tree
  | none, none => (SearchPath.new env.includePath env.encoding true).loader tree

/-- Compiles a template. -/
def compile (env : Environment) (tree : FileTree) (r : CompileRequest) : Compilation :=
  match env.readSource tree r with
  | .error failure => ⟨.error failure, []⟩
  | .ok source =>
    match scanTemplate source.text source.name with
    | .error e => ⟨.error (.template (.compile e)), []⟩
    | .ok document =>
      let resolution := resolve tree (env.loaderFor tree r.includePath) document source.origin
      let told := resolution.warnings.map IncludeWarning.record
      match resolution.result with
      | .error fault => ⟨.error (.ofResolve fault), told⟩
      | .ok resolved =>
        match generate resolved.document resolved.sources resolved.warnings with
        | .error e => ⟨.error (.ofGenerate e), told⟩
        | .ok script => ⟨.ok script, told ++ [compiledRecord resolved.document script]⟩

/-! ## Running -/

/-- Runs a script with the variables of the caller. -/
def run (env : Environment) (colour : Bool) (tree : FileTree) (script : Script) (c : Config)
    (heap : Heap) (context : List (Text × Value)) : Report :=
  Stencil.run colour env.executor env.escapes script c tree heap context

/-- What is to be expanded: compiled and run at once. -/
structure ExpandRequest where
  source : Option Text
  sourceFile : Option SourceFile
  output : SinkValue
  errors : SinkValue
  includePath : Option IncludePath
  reportedFilename : Option Text
  namespaceId : Option Text

/-- The part of a request that concerns the compilation. -/
def ExpandRequest.toCompile (r : ExpandRequest) : CompileRequest :=
  ⟨r.source, r.sourceFile, r.includePath, r.reportedFilename⟩

/-- The wiring that a request asks for. -/
def configFor (env : Environment) (r : ExpandRequest) : Except Failure Config :=
  Config.build r.output r.errors (r.includePath.getD (.many env.includePath)) r.reportedFilename
    r.namespaceId env.encoding

/-- The report of something that failed before any code ran. -/
def failed (failure : Failure) (tree : FileTree) (log : List LogRecord) : Report :=
  { result := .error failure, written := [], delivered := [], told := [], tree, log }

/-- Compiles a template and runs it. -/
def expand (env : Environment) (colour : Bool) (tree : FileTree) (r : ExpandRequest) (heap : Heap)
    (context : List (Text × Value)) : Report :=
  match env.configFor r with
  | .error failure => failed failure tree []
  | .ok c =>
    let compilation := env.compile tree r.toCompile
    match compilation.result with
    | .error failure => failed failure tree compilation.log
    | .ok script =>
      let report := env.run colour tree script c heap context
      { report with log := compilation.log ++ report.log }

end Environment

end Stencil
