import Stencil.Files.Access
import Stencil.Include.Similar

/-!
# Loaders

A loader gives the text of an included file for the path that a directive names, and the name that
the file goes by in diagnostics. It is a function together with a bound on how many different files
it can give. There are loaders that search directories, loaders that hold all texts themselves, and
loaders that answer from a table.
-/

namespace Stencil

/-- Why a loader gives no text. -/
inductive LoadFault where
  /-- There is no such file; what is said of that. -/
  | notFound (message : Text)
  /-- There is a file, or there may be, but it cannot be read. -/
  | file (fault : FileFault)
  /-- The table of the loader has no answer. -/
  | noAnswer (name : Text)
  deriving DecidableEq, Repr

/-- The text of a file and the name that it goes by. -/
structure Loaded where
  text : Text
  filename : Text
  deriving DecidableEq, Repr

/-- A loader, and a bound on how many different files it gives. -/
structure Loader where
  load : Text → Except LoadFault Loaded
  size : Nat

/-! ## Searching directories -/

/-- Directories in the order in which they are searched, and the encoding of the files. -/
structure SearchPath where
  directories : List Path
  encoding : Text
  deriving DecidableEq, Repr

namespace SearchPath

/-- The search path of the current directory, if it is to be searched, and then of others. -/
def new (directories : List Text) (encoding : Text) (searchCurrent : Bool) : SearchPath where
  directories :=
    (if searchCurrent then [Path.here] else []) ++ directories.map Path.ofText
  encoding := encoding

/-- The first of several paths that leads to a file. -/
def firstFile? (tree : FileTree) : List Path → Except FileFault (Option Path)
  | [] => .ok none
  | p :: ps => do if ← tree.isFile p.text then return some p else firstFile? tree ps

/-- The places where a name is looked for. A name that starts from a root stands for itself. -/
def candidates (s : SearchPath) (name : Text) : List Path :=
  let wanted := Path.ofText name
  if wanted.isAbsolute then [wanted] else s.directories.map (·.join wanted)

/-- The file that a name leads to. -/
def find? (s : SearchPath) (tree : FileTree) (name : Text) : Except FileFault (Option Path) :=
  firstFile? tree (s.candidates name)

/-- What is said of a name that leads to no file. -/
def notFoundMessage (s : SearchPath) (name : Text) : Text :=
  let searched :=
    if s.directories.isEmpty then "(no directories)".toList
    else Text.join ", ".toList (s.directories.map Path.text)
  "Include '".toList ++ name ++ "' not found in: ".toList ++ searched

/-- The text of the file that a name leads to. The empty name leads to none. -/
def load (s : SearchPath) (tree : FileTree) (name : Text) : Except LoadFault Loaded := do
  let found ← if name.isEmpty then pure none else (s.find? tree name).mapError .file
  match found with
  | none => throw (.notFound (s.notFoundMessage name))
  | some p => return ⟨← (tree.readText p.text s.encoding).mapError .file, p.text⟩

/-- The loader that searches directories. -/
def loader (s : SearchPath) (tree : FileTree) : Loader := ⟨s.load tree, tree.size⟩

end SearchPath

/-! ## Texts held by the loader -/

/-- What is said of a name that has no text; a name like it may be meant. -/
def unknownName (names : List Text) (name : Text) : Text :=
  "Include '".toList ++ name ++ "' not found".toList ++
    match Similar.closest? name (Text.sorted names) with
    | some other => ". Did you mean '".toList ++ other ++ "'?".toList
    | none => []

/-- The loader of texts by name. -/
def Loader.ofTexts (texts : List (Text × Text)) : Loader where
  load name :=
    match texts.lookup name with
    | some text => .ok ⟨text, name⟩
    | none => .error (.notFound (unknownName (texts.map Prod.fst) name))
  size := texts.length

/-! ## Tables -/

/-- The loader that answers from a table. Names without an entry are not found; names whose entry is
empty have no answer. -/
def Loader.ofTable (table : List (Text × Option Loaded)) : Loader where
  load name :=
    match table.lookup name with
    | some (some loaded) => .ok loaded
    | some none => .error (.noAnswer name)
    | none => .error (.notFound name)
  size := table.length

end Stencil
