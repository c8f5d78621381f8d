import Stencil.Text.Codec
import Stencil.Text.Lines
import Stencil.Text.Quoted
import Stencil.Files.Path

/-!
# Trees of files

A tree of files says what stands at a location: a file with its bytes, a directory, or a link to
another path. A location is the list of names that lead to it from the root, through directories
only. The root is a directory always.

`walk` follows a written path, through links, to the location that it leads to. It may fail in the
ways that a system call may; a link is followed at most `linkLimit` times.
-/

namespace Stencil

/-- The names that lead to something from the root. -/
abbrev Location := List Text

/-- What stands at a location. -/
inductive Node where
  | file (bytes : List UInt8)
  | directory
  | link (target : Text)
  deriving DecidableEq, Repr

/-- What stands where, below the root, and the directory that relative paths start from. -/
structure FileTree where
  nodes : List (Location × Node)
  current : Location
  deriving DecidableEq, Repr

/-- Why a path leads nowhere. -/
inductive PathFault where
  | missing
  | notDirectory
  | isDirectory
  | nameTooLong
  | tooManyLinks
  deriving DecidableEq, Repr

/-- The number of a fault. -/
def PathFault.number : PathFault → Nat
  | .missing => 2
  | .notDirectory => 20
  | .isDirectory => 21
  | .nameTooLong => 36
  | .tooManyLinks => 40

/-- The wording of a fault. -/
def PathFault.wording : PathFault → Text
  | .missing => "No such file or directory".toList
  | .notDirectory => "Not a directory".toList
  | .isDirectory => "Is a directory".toList
  | .nameTooLong => "File name too long".toList
  | .tooManyLinks => "Too many levels of symbolic links".toList

/-- What a path leads to. -/
inductive Destination where
  | found (place : Location) (node : Node)
  /-- Nothing, but something can be put there. -/
  | vacant (place : Location)
  deriving DecidableEq, Repr

namespace FileTree

/-- What stands at a location. -/
def get? (tree : FileTree) (l : Location) : Option Node :=
  if l = [] then some .directory else tree.nodes.lookup l

/-- Is there a directory at a location? -/
def isDirectory (tree : FileTree) (l : Location) : Bool := tree.get? l == some .directory

/-- The tree with something put at a location. -/
def put (tree : FileTree) (l : Location) (node : Node) : FileTree :=
  { tree with nodes := (l, node) :: tree.nodes.filter (·.1 != l) }

/-- The locations on the way to a location, the root first. -/
def waysTo (l : Location) : List Location := (List.range l.length).map l.take

/-- The tree with directories on the way to a location. -/
def makeWay (tree : FileTree) (l : Location) : FileTree :=
  (waysTo l).foldl
    (fun tree way => if (tree.get? way).isSome then tree else tree.put way .directory) tree

/-- The tree with something put at a location, and directories on the way to it. -/
def place (tree : FileTree) (l : Location) (node : Node) : FileTree :=
  (tree.makeWay l).put l node

/-- The tree of a current directory and what stands in it. -/
def ofEntries (current : Location) (entries : List (Location × Node)) : FileTree :=
  entries.foldl (fun tree entry => tree.place (current ++ entry.1) entry.2)
    ((⟨[], current⟩ : FileTree).place current .directory)

/-- How many files the tree holds. -/
def size (tree : FileTree) : Nat := tree.nodes.length

/-! ## Following paths -/

/-- How many links are followed on the way. -/
def linkLimit : Nat := 40

/-- How many bytes a name may have. -/
def nameLimit : Nat := 255

/-- How many bytes a path may have. -/
def pathLimit : Nat := 4095

/-- Does nothing come after a name but slashes? -/
def isTrailing (rest : List Text) : Bool := ! rest.isEmpty && rest.all List.isEmpty

/-- Follows names from a location. With `creating`, a file is to be made where the path leads, which
slashes at its end forbid. -/
def walk (tree : FileTree) (creating : Bool) (links : Nat) (l : Location) :
    List Text → Except PathFault Destination
  | [] =>
    match tree.get? l with
    | some node => .ok (.found l node)
    | none => .error .missing
  | name :: rest =>
    if ! tree.isDirectory l then .error .notDirectory
    else if ! Path.isKept name then tree.walk creating links l rest
    else if name = ['.', '.'] then tree.walk creating links l.dropLast rest
    else if creating && isTrailing rest then .error .isDirectory
    else if nameLimit < (Codec.utf8Bytes name).length then .error .nameTooLong
    else
      match tree.get? (l ++ [name]) with
      | none => if rest.isEmpty then .ok (.vacant (l ++ [name])) else .error .missing
      | some (.link target) =>
        match links with
        | 0 => .error .tooManyLinks
        | links + 1 =>
          tree.walk creating links (if target.head? = some '/' then [] else l)
            (Text.split '/' target ++ rest)
      | some _ => tree.walk creating links (l ++ [name]) rest
termination_by names => (links, names.length)

/-- The location that a written path starts from. -/
def start (tree : FileTree) (path : Text) : Location :=
  if path.head? = some '/' then [] else tree.current

/-- Follows a written path. -/
def follow (tree : FileTree) (creating : Bool) (path : Text) : Except PathFault Destination :=
  if path.isEmpty then .error .missing
  else if pathLimit < (Codec.utf8Bytes path).length then .error .nameTooLong
  else tree.walk creating linkLimit (tree.start path) (Text.split '/' path)

end FileTree

end Stencil
