import Stencil.Environment

/-!
# Include paths as they are given

A caller gives one directory or several, and each of them as it is written or as a path that has
been read. An environment and the wiring of a run take one directory for what it is. A compilation
goes through what it is given item by item: the items of a directory that is written are its
characters, and a path that has been read has none.
-/

namespace Stencil

/-- A directory as it is given. -/
inductive Directory where
  | written (t : Text)
  | read (p : Path)
  deriving DecidableEq, Repr

/-- A directory as it is written. -/
def Directory.text : Directory → Text
  | .written t => t
  | .read p => p.text

/-- Directories to search, as they are given. -/
inductive Directories where
  | one (d : Directory)
  | many (ds : List Directory)
  deriving DecidableEq, Repr

namespace Directories

/-- The directories, whether one is given or several. -/
def texts : Directories → List Text
  | .one d => [d.text]
  | .many ds => ds.map Directory.text

/-- What is said of a path in place of several. -/
def notSeveral : Failure :=
  .passedOn "TypeError".toList "'PosixPath' object is not iterable".toList

/-- What a compilation goes through. -/
def toIncludePath : Directories → Except Failure IncludePath
  | .one (.written t) => .ok (.one t)
  | .one (.read _) => .error notSeveral
  | .many ds => .ok (.many (ds.map Directory.text))

end Directories

namespace Environment

/-- An environment of the given parts. Parts that are not given are the usual ones, and a registry
without names counts as not given. -/
def new (includePath : Directories) (loader : Option (FileTree → Loader))
    (escapes : Option Registry) (executor : Option Executor) (encoding : Text) : Environment where
  includePath := includePath.texts
  loader
  escapes := (escapes.filter (! ·.names.isEmpty)).getD .standard
  executor := executor.getD .standard
  encoding

/-- The environment with another include path. -/
def withIncludePath (env : Environment) (p : Directories) : Environment :=
  { env with includePath := p.texts }

/-- Compiles a template with an include path as it is given, in place of the one of the request. The
template is read and scanned before the include path is gone through. -/
def compileWith (env : Environment) (tree : FileTree) (r : CompileRequest)
    (p : Option Directories) : Compilation :=
  match p.map Directories.toIncludePath with
  | none => env.compile tree { r with includePath := none }
  | some (.ok path) => env.compile tree { r with includePath := some path }
  | some (.error refusal) =>
    match env.readSource tree r with
    | .error failure => ⟨.error failure, []⟩
    | .ok source =>
      match scanTemplate source.text source.name with
      | .error e => ⟨.error (.template (.compile e)), []⟩
      | .ok _ => ⟨.error refusal, []⟩

/-- Compiles a template with an include path as it is given, and runs it. -/
def expandWith (env : Environment) (colour : Bool) (tree : FileTree) (r : ExpandRequest)
    (p : Option Directories) (heap : Heap) (context : List (Text × Value)) : Report :=
  match env.configFor { r with includePath := p.map fun p => .many p.texts } with
  | .error failure => failed failure tree []
  | .ok c =>
    let compilation := env.compileWith tree r.toCompile p
    match compilation.result with
    | .error failure => failed failure tree compilation.log
    | .ok script =>
      let report := env.run colour tree script c heap context
      { report with log := compilation.log ++ report.log }

end Environment

end Stencil
