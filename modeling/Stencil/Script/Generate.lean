import Stencil.Code.Scope
import Stencil.Diagnostic.CompileError
import Stencil.Script.Basic
import Stencil.Script.Block
import Stencil.Segment

/-!
# Generating a script

Every segment of a document becomes statements of the script, in order: a literal writes its text,
an interpolation writes the escaped value of its variable, and the statements of a code block are
taken over. A literal or an interpolation takes one line of the script, a code block as many as it
has.

A *draft* is a script in the making. A generator keeps its draft from one document to the next, but
begins every document with an empty one.
-/

namespace Stencil

open Code (Expr Stmt)

/-- Why no script is generated. -/
inductive GenerateError where
  /-- Code that cannot be read, or that stands where it must not. -/
  | syntaxError (e : CompileError)
  /-- Code with a NUL character. -/
  | nulInCode
  /-- A file or a script whose name holds a NUL character. -/
  | nulInName
  /-- A variable that bears the name of a constant. -/
  | constantName (name : Text)
  /-- A directive that nothing was put in place of. -/
  | unresolved (path filename : Text) (line : Int)

/-- What is said when no script is generated. -/
def GenerateError.message (colour : Bool) : GenerateError → Text
  | .syntaxError e => e.message colour
  | .nulInCode => "source code string cannot contain null bytes".toList
  | .nulInName => "embedded null character".toList
  | .constantName name =>
    "identifier field can't represent '".toList ++ name ++ "' constant".toList
  | .unresolved path filename line =>
    "Unresolved include '".toList ++ path ++ "' at ".toList ++ filename ++ ':' ::
      Text.ofInt line ++ "; includes must be resolved before code generation".toList

/-- A script in the making: what has been generated, and the next line of the script. -/
structure Draft where
  body : List Stmt
  markers : List Marker
  next : Nat
  sources : List (Text × Text)

/-- The draft that a document begins with. -/
def Draft.empty (sources : List (Text × Text)) : Draft := ⟨[], [], 1, sources⟩

/-- A step of the generation; what it has done to the draft stays done when it fails. -/
abbrev Generation := ExceptT GenerateError (StateM Draft)

/-! ## Statements -/

/-- The statement that writes the value of an expression. -/
def writeStmt (line : Nat) (value : Expr) : Stmt :=
  .expr ⟨line, line⟩ (.call line (.name line "_write".toList) [value] [] [])

/-- The statement that writes a text. -/
def literalStmt (line : Nat) (t : Text) : Stmt := writeStmt line (.constant line (.text t))

/-- The statement that writes the value of a variable in a style. -/
def interpolationStmt (line : Nat) (name : Text) (style : Option Text) : Stmt :=
  let styleName : Code.Constant :=
    match style with
    | none => .none
    | some t => .text t
  writeStmt line
    (.call line (.name line "_escape".toList) [.constant line styleName, .name line name] [] [])

/-! ## Errors -/

/-- The error of code at a place, with the line it is about if its text is known. -/
def Draft.syntaxError (d : Draft) (message : Text) (place : Option (Text × Int)) :
    GenerateError :=
  let filename := place.map Prod.fst
  let source := (filename.filter (! ·.isEmpty)).bind fun name => d.sources.lookup name
  .syntaxError (.new .codeSyntax message (place.map Prod.snd) filename source none none)

/-- Where a line of the draft was written. -/
def Draft.locate (d : Draft) (line : Int) : Option (Text × Int) :=
  (Marker.scan? d.markers line).map Marker.place

/-- What the misuse of something in a finished draft is reported as. -/
def Draft.misuseError (d : Draft) : Code.Misuse → GenerateError
  | .constantName name => .constantName name
  | .misplaced message line => d.syntaxError message (d.locate line)

/-! ## Segments -/

namespace Draft

/-- The draft with a statement of one line more. -/
def place (d : Draft) (stmt : Nat → Stmt) (s : Segment) : Draft :=
  { d with
    body := d.body ++ [stmt d.next]
    markers := d.markers ++ [⟨d.next, s.filename, s.line⟩]
    next := d.next + 1 }

/-- The markers for the lines of a block. -/
def blockMarkers (d : Draft) (filename : Text) (b : Block) : List Marker :=
  (List.range b.height).map fun k => ⟨d.next + k, filename, b.line + k⟩

/-- The draft with the statements of a block more. -/
def placeBlock (d : Draft) (filename : Text) (b : Block) (stmts : List Stmt) : Draft :=
  { d with
    body := d.body ++ Stmt.mapLinesAll (· + (d.next - 1)) stmts
    markers := d.markers ++ d.blockMarkers filename b
    next := d.next + b.height }

/-- The draft with a segment more. A block without statements adds nothing. -/
def add (d : Draft) (s : Segment) : Except GenerateError Draft :=
  match s.body with
  | .literal [] => .ok d
  | .literal t => .ok (d.place (literalStmt · t) s)
  | .interpolation name style => .ok (d.place (interpolationStmt · name style) s)
  | .directive path => .error (.unresolved path s.filename s.line)
  | .code t =>
    if s.filename.contains '\x00' then .error .nulInName
    else
      let b := Block.ofText t s.line
      match Code.parse b.code with
      | .error .nul => .error .nulInCode
      | .error (.malformed message line) =>
        .error (d.syntaxError message (some (s.filename, b.line + line - 1)))
      | .ok [] => .ok d
      | .ok stmts => .ok (d.placeBlock s.filename b stmts)

end Draft

/-- Adds a segment to the draft. -/
def Generation.add (s : Segment) : Generation Unit := do
  set (← liftExcept ((← get).add s))
where
  /-- A failure or a new draft, as a step. -/
  liftExcept (r : Except GenerateError Draft) : Generation Draft := ExceptT.mk (pure r)

/-! ## Documents -/

/-- The texts that a script keeps: those given, or the document's own if none are. -/
def keptSources (d : Document) (sources : List (Text × Text)) : List (Text × Text) :=
  if sources.isEmpty then [(d.name, d.source)] else sources

/-- The record that a finished script leaves in the log. -/
def compiledRecord (d : Document) (script : Script) : LogRecord where
  level := .debug
  part := .generator
  message := "Compiled ".toList ++ d.name ++ ": ".toList ++ Text.ofNat d.segments.length ++
    " segments, ".toList ++ Text.ofNat script.body.length ++ " statements".toList

/-- Generates the script of a document, from whatever draft there is. -/
def Generation.script (d : Document) (sources : List (Text × Text))
    (warnings : List IncludeWarning) : Generation Script := do
  set (Draft.empty (keptSources d sources))
  d.segments.forM Generation.add
  if d.name.contains '\x00' then throw .nulInName
  let draft ← get
  match Code.moduleMisuse? draft.body with
  | some misuse => throw (draft.misuseError misuse)
  | none =>
    return {
      name := d.name
      body := draft.body
      markers := draft.markers
      warnings
      sources := draft.sources }

/-- The script of a document. -/
def generate (d : Document) (sources : List (Text × Text)) (warnings : List IncludeWarning) :
    Except GenerateError Script :=
  ((Generation.script d sources warnings).run (Draft.empty [])).1

end Stencil
