import Stencil.Diagnostic.CompileError
import Stencil.Diagnostic.IncludeWarning
import Stencil.Include.Loader

/-!
# Splicing included files

Every directive of a document is replaced by the segments of the file that it names, whose own
directives have been replaced before. The segments keep the name and the lines of the file that they
come from. A directive is left out, with a warning and with empty text in its place, when its file
is not found and when that file is being included already: along a chain of includes all files are
different.
-/

namespace Stencil

/-- Why the directives of a document cannot be replaced. -/
inductive ResolveFault where
  /-- An included file has a construct that is never closed. -/
  | scan (e : CompileError)
  | load (fault : LoadFault)
  /-- The name of a file holds a NUL character. -/
  | nulInPath
  /-- Files include each other too deep. -/
  | tooDeep
  deriving DecidableEq, Repr

/-- What splicing gives: segments, directives left out, texts of files in the order in which they
were met, and the fault that ended it, if there was one. -/
structure Spliced where
  segments : List Segment
  warnings : List IncludeWarning
  files : List (Text × Text)
  fault : Option ResolveFault
  deriving DecidableEq, Repr

namespace Spliced

/-- Nothing. -/
def nil : Spliced := ⟨[], [], [], none⟩

/-- A segment kept as it is. -/
def keep (s : Segment) : Spliced := ⟨[s], [], [], none⟩

/-- A fault. -/
def stop (fault : ResolveFault) : Spliced := ⟨[], [], [], some fault⟩

/-- A directive left out. -/
def leaveOut (filename : Text) (line : Int) (path : Text) (code : ErrorCode) : Spliced where
  segments := [⟨.literal [], filename, line⟩]
  warnings := [⟨filename, line, path, code⟩]
  files := []
  fault := none

/-- One after the other; a fault ends it. -/
def append (a b : Spliced) : Spliced :=
  match a.fault with
  | some _ => a
  | none =>
    ⟨a.segments ++ b.segments, a.warnings ++ b.warnings, a.files ++ b.files, b.fault⟩

/-- Several, one after the other. -/
def concat (parts : List Spliced) : Spliced := parts.foldr append nil

/-- What comes from a file, with the text of that file. -/
def fromFile (filename text : Text) (inner : Spliced) : Spliced :=
  { inner with files := (filename, text) :: inner.files }

end Spliced

/-- How the directives of a file are replaced, given the files being included, the name of the file
and its segments. -/
abbrev Splicer := List Location → Text → List Segment → Spliced

/-- What takes the place of a segment. -/
def spliceSegment (tree : FileTree) (loader : Loader) (inner : Splicer) (active : List Location)
    (name : Text) (s : Segment) : Spliced :=
  match s.path? with
  | none => .keep s
  | some path =>
    match loader.load path with
    | .error (.notFound _) => .leaveOut name s.line path .includeNotFound
    | .error fault => .stop (.load fault)
    | .ok found =>
      match tree.realPath found.filename with
      | .error _ => .stop .nulInPath
      | .ok identity =>
        if identity ∈ active then .leaveOut name s.line path .includeCycle
        else
          .fromFile found.filename found.text <|
            match scanTemplate found.text found.filename with
            | .error e => .stop (.scan e)
            | .ok child => inner (identity :: active) child.name child.segments

/-- Replaces the directives of a file; `depth` bounds how deep files include each other. -/
def splice (tree : FileTree) (loader : Loader) : (depth : Nat) → Splicer
  | 0 => fun _ _ _ => .stop .tooDeep
  | depth + 1 => fun active name segments =>
    .concat (segments.map (spliceSegment tree loader (splice tree loader depth) active name))

/-- A document without directives, what was left out of it, and the texts of all files that
contributed, each under the name under which it was met first. -/
structure Resolved where
  document : Document
  warnings : List IncludeWarning
  sources : List (Text × Text)
  deriving DecidableEq, Repr

/-- Adds a text under a name that has none yet. -/
def addSource (sources : List (Text × Text)) (file : Text × Text) : List (Text × Text) :=
  if (sources.lookup file.1).isSome then sources else sources ++ [file]

/-- How a document is resolved: the warnings given on the way, and what comes out. -/
structure Resolution where
  warnings : List IncludeWarning
  result : Except ResolveFault Resolved

/-- Replaces the directives of a document. `origin` is the path of the file that the document was
read from. -/
def resolve (tree : FileTree) (loader : Loader) (d : Document) (origin : Option Text) :
    Resolution :=
  let active : Except FileTree.NulInPath (List Location) :=
    match origin with
    | none => .ok []
    | some path => (tree.realPath path).map fun l => [l]
  match active with
  | .error _ => ⟨[], .error .nulInPath⟩
  | .ok active =>
    let spliced := splice tree loader (loader.size + 1) active d.name d.segments
    { warnings := spliced.warnings
      result :=
        match spliced.fault with
        | some fault => .error fault
        | none =>
          .ok
            { document := { d with segments := spliced.segments }
              warnings := spliced.warnings
              sources := spliced.files.foldl addSource [(d.name, d.source)] } }

end Stencil
