import Stencil.Files.RealPath

/-!
# Reading and writing files

Files are read as text: the bytes are decoded, and every line end becomes a newline. A file that is
opened for writing is emptied, or made, at once; what is to be written is put into it when the
writing is over.
-/

namespace Stencil

/-- Why a file cannot be read or written. -/
inductive FileFault where
  /-- A path leads nowhere; the path as it was given. -/
  | path (fault : PathFault) (path : Text)
  /-- A path holds a NUL character. -/
  | nulInPath
  | unknownEncoding (name : Text)
  | undecodable (u : Undecodable)
  deriving DecidableEq, Repr

/-- What is said of a file that cannot be read or written. -/
def FileFault.message : FileFault → Text
  | .path fault given =>
    "[Errno ".toList ++ Text.ofNat fault.number ++ "] ".toList ++ fault.wording ++ ": ".toList ++
      Text.quoted given
  | .nulInPath => "embedded null byte".toList
  | .unknownEncoding name => "unknown encoding: ".toList ++ name
  | .undecodable u => u.message

namespace FileTree

/-- Does a path lead to a file? Only a name that is too long is an error. -/
def isFile (tree : FileTree) (path : Text) : Except FileFault Bool :=
  if path.contains '\x00' then .ok false
  else
    match tree.follow false path with
    | .ok (.found _ (.file _)) => .ok true
    | .ok _ => .ok false
    | .error .nameTooLong => .error (.path .nameTooLong path)
    | .error _ => .ok false

/-- The bytes of the file that a path leads to. -/
def readBytes (tree : FileTree) (path : Text) : Except FileFault (List UInt8) :=
  if path.contains '\x00' then .error .nulInPath
  else
    match tree.follow false path with
    | .ok (.found _ (.file bytes)) => .ok bytes
    | .ok (.found _ _) => .error (.path .isDirectory path)
    | .ok (.vacant _) => .error (.path .missing path)
    | .error fault => .error (.path fault path)

/-- The codec that goes by a name. -/
def codec (name : Text) : Except FileFault Codec :=
  match Codec.ofName? name with
  | some codec => .ok codec
  | none => .error (.unknownEncoding name)

/-- The text of the file that a path leads to. -/
def readText (tree : FileTree) (path encoding : Text) : Except FileFault Text := do
  let bytes ← tree.readBytes path
  match (← codec encoding).decode bytes with
  | .ok t => return Text.unixNewlines t
  | .error u => throw (.undecodable u)

/-- The tree with the file that a path leads to made or emptied, and the location of that file. -/
def openFile (tree : FileTree) (path : Text) : Except FileFault (FileTree × Location) :=
  if path.contains '\x00' then .error .nulInPath
  else
    match tree.follow true path with
    | .ok (.found _ .directory) => .error (.path .isDirectory path)
    | .ok (.found l _) | .ok (.vacant l) => .ok (tree.put l (.file []), l)
    | .error fault => .error (.path fault path)

end FileTree

end Stencil
