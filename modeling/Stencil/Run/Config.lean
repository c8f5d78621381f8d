import Stencil.Failure

/-!
# How a run is wired

Where the output of a run goes, and where its error goes if it fails. The caller gives values of any
kind; what kind of sink they stand for is decided once, when they are made into a `Config`.
-/

namespace Stencil

/-- A stream of the caller's: the text that it holds, whether it is a terminal, how many texts it
still takes, and whether writing to it gives back the length of the text. -/
structure Stream where
  held : Text
  isTerminal : Bool
  room : Option Nat
  givesLength : Bool
  deriving DecidableEq, Repr

/-- A function of the caller's that takes errors; it may fail on one. -/
abbrev Callback := ExecutionError → Option Failure

/-- A value that is given as a sink. -/
inductive SinkValue where
  /-- No value. -/
  | absent
  /-- A path as it is written. -/
  | path (p : Text)
  /-- A path that has been read. -/
  | readPath (p : Path)
  | stream (s : Stream)
  /-- A function, with the name of its type. -/
  | function (typeName : Text) (f : Callback)
  /-- A value of any other type. -/
  | other (typeName : Text)

/-- Where output goes. -/
inductive OutputSink where
  /-- It is given back to the caller. -/
  | captured
  /-- It is put into a file. -/
  | file (path : Text)
  | stream (s : Stream)

/-- Where errors go. -/
inductive ErrorSink where
  /-- They are raised to the caller. -/
  | propagate
  | callback (f : Callback)
  | stream (s : Stream)

/-- The output sink that a value stands for. -/
def OutputSink.ofValue : SinkValue → Except Failure OutputSink
  | .absent => .ok .captured
  | .path p => .ok (.file p)
  | .readPath p => .ok (.file p.text)
  | .stream s => .ok (.stream s)
  | .function typeName _ | .other typeName => .error (.badOutput typeName)

/-- The error sink that a value stands for. -/
def ErrorSink.ofValue : SinkValue → Except Failure ErrorSink
  | .absent => .ok .propagate
  | .path _ => .error (.badErrorSink "str".toList)
  | .readPath _ => .error (.badErrorSink "PosixPath".toList)
  | .stream s => .ok (.stream s)
  | .function _ f => .ok (.callback f)
  | .other typeName => .error (.badErrorSink typeName)

/-- Directories to search, as they are given: one, or several. -/
inductive IncludePath where
  | one (directory : Text)
  | many (directories : List Text)
  deriving DecidableEq, Repr

/-- The directories of an include path. -/
def IncludePath.directories : IncludePath → List Text
  | .one directory => [directory]
  | .many directories => directories

/-- The include path gone through item by item: the items of one directory are its characters. -/
def IncludePath.items : IncludePath → List Text
  | .one directory => directory.map fun c => [c]
  | .many directories => directories

/-- How a run is wired. A run without an identity gets a fresh one. -/
structure Config where
  output : OutputSink
  errors : ErrorSink
  includePath : List Text
  reportedFilename : Option Text
  namespaceId : Option Text
  encoding : Text

namespace Config

/-- The wiring that the given values stand for. -/
def new (output errors : SinkValue) (includePath : IncludePath)
    (reportedFilename namespaceId : Option Text) (encoding : Text) : Except Failure Config := do
  return {
    output := ← OutputSink.ofValue output
    errors := ← ErrorSink.ofValue errors
    includePath := includePath.directories
    reportedFilename
    namespaceId
    encoding }

/-- The wiring that the given values stand for, with a fresh identity in place of an empty one. -/
def build (output errors : SinkValue) (includePath : IncludePath)
    (reportedFilename namespaceId : Option Text) (encoding : Text) : Except Failure Config :=
  new output errors includePath reportedFilename (namespaceId.filter (! ·.isEmpty)) encoding

/-- The usual encoding. -/
def usualEncoding : Text := "utf-8".toList

/-- Output is captured, errors are raised. -/
def standard : Config := ⟨.captured, .propagate, [], none, none, usualEncoding⟩

/-- How a run is called; a fresh identity has no text of its own. -/
def identity (c : Config) : Text := c.namespaceId.getD "<fresh>".toList

/-- The name of the module that the code of a run belongs to. -/
def moduleName (c : Config) : Text := "kiln.ns_".toList ++ c.identity

end Config

end Stencil
