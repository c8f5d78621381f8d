import Stencil.Run.Namespace

/-!
# Runs and their reports

A run hands a script to an executor and looks after its output and its error. What it leaves behind
is a *report*: the answer to the caller, all that was written to the output, the errors handed to a
callback, the text written to an error stream, the files, and the log.

An error of the embedded code ends the run. It is placed where the code was written and then goes to
the error sink, once. Errors that are not meant to be caught pass through as they are.
-/

namespace Stencil

/-- What a run leaves behind. -/
structure Report where
  /-- The captured output, if output is captured and the run did not fail; or why there is no
  answer. -/
  result : Except Failure (Option Text)
  written : Text
  delivered : List ExecutionError
  told : Text
  tree : FileTree
  log : List LogRecord

/-! ## Output -/

/-- The error of a stream that takes no more. -/
def streamFullError : Thrown := .ofMessage "OSError" "disk full".toList

/-- The error of a character that a codec cannot write. -/
def encodeError (u : Unencodable) : Thrown :=
  .error (.object (.known "UnicodeEncodeError".toList) [.text u.codec.label] (some u.message))

/-- The outlet that leads to a stream. -/
def Stream.outlet (s : Stream) : Outlet where
  refuse? taken _ := if s.room.any (· ≤ taken) then some streamFullError else none
  givesLength := s.givesLength

/-- The outlet that leads to a file written with a codec. -/
def Codec.outlet (codec : Codec) : Outlet where
  refuse? _ t :=
    match codec.encode t with
    | .ok _ => none
    | .error u => some (encodeError u)
  givesLength := true

/-- What is said of a value that is written but is no text. -/
def OutputSink.notText (sink : OutputSink) (typeName : Text) : Thrown :=
  match sink with
  | .file _ => .type ("write() argument must be str, not ".toList ++ typeName)
  | _ => .type ("string argument expected, got '".toList ++ typeName ++ ['\x27'])

/-- A sink that is ready to be written to. -/
structure OpenSink where
  outlet : Outlet
  /-- Puts what was written into its place. -/
  close : Text → FileTree

/-- Makes a sink ready. A file is made or emptied even if its encoding is unknown. -/
def OutputSink.open (sink : OutputSink) (tree : FileTree) (encoding : Text) :
    FileTree × Except Failure OpenSink :=
  match sink with
  | .captured => (tree, .ok ⟨.open, fun _ => tree⟩)
  | .stream s => (tree, .ok ⟨s.outlet, fun _ => tree⟩)
  | .file path =>
    match tree.openFile path with
    | .error fault => (tree, .error (.file fault))
    | .ok (tree, l) =>
      match FileTree.codec encoding with
      | .error fault => (tree, .error (.file fault))
      | .ok codec =>
        (tree, .ok ⟨codec.outlet, fun t => tree.put l (.file (t.flatMap codec.encodeChar))⟩)

/-! ## Errors -/

/-- The error object that a run was stopped by. -/
def OutputSink.errorOf (sink : OutputSink) : Thrown → Value
  | .error v => v
  | .notText typeName =>
    match sink.notText typeName with
    | .error v => v
    | .notText _ => .none

/-- The arguments of an error. -/
def errorArguments : Value → List Value
  | .object _ args _ => args
  | _ => []

/-- The texts of the values that have one that is not blank. Such a value is asked twice: whether it
has a text, and for the text. -/
def presentTexts (call : Caller) : List Value → Action (List Text)
  | [] => return []
  | v :: vs => do
    if (Text.strip (← currentText call 0 v)).isEmpty then presentTexts call vs
    else
      let t ← currentText call 0 v
      return t :: (← presentTexts call vs)

/-- What is said of an error: its text, or else the texts of its arguments. -/
def describe (s : Setting) (error : Value) : Action Text := do
  let call := callTop s
  let t := Text.strip (← currentText call 0 error)
  if ! t.isEmpty then return t
  match ← presentTexts call (errorArguments error) with
  | [] => return "(no details available)".toList
  | texts => return Text.join ", ".toList texts

/-- Is an error meant to be caught? -/
def isOrdinary (heap : Heap) : Value → Bool
  | .object c _ _ => heap.isKind c "Exception"
  | _ => false

/-- An error that nothing stops, with its text if it has one. -/
def passOn (s : Setting) (error : Value) (m : Machine) : Failure × Machine :=
  match currentText (callTop s) 0 error m with
  | .done t m => (.passedOn (m.heap.typeName error) t, m)
  | .raised _ _ m | .exhausted m => (.passedOn (m.heap.typeName error) [], m)

/-- Where a line of a script was written; what no line of the script did is placed in the template
as a whole. -/
def locateFailure (script : Script) (line : Nat) : Text × Option Int :=
  match script.locate line with
  | some place => (place.1, some place.2)
  | none => (script.name, none)

/-- An error of embedded code, placed where the code was written. -/
def executionError (script : Script) (c : Config) (line : Nat) (cause : Cause)
    (reason : Text) : ExecutionError :=
  let (filename, authored) := locateFailure script line
  let source := (script.sources.lookup filename).filter (! ·.isEmpty)
  { reason
    templateName :=
      some (((c.reportedFilename.filter fun t => ! t.isEmpty && filename == script.name)).getD
        filename)
    line := authored
    cause := some cause
    snippet := do
      let source ← source
      let authored ← authored.filter (· != 0)
      Snippet.ofSource? source authored 2 none
    namespaceId := some c.identity }

/-- What delivering an error does: whether it fails, the errors handed over, the text written, and
the log. -/
structure Delivery where
  failure : Option Failure
  delivered : List ExecutionError
  told : Text
  log : List LogRecord

/-- The text that an error stream is given. -/
def Stream.errorText (s : Stream) (colour : Bool) (e : ExecutionError) : Text :=
  (if s.isTerminal then e.compact colour else stripColours (e.compact colour)) ++ ['\n']

/-- The record that an error written to a stream leaves in the log. -/
def toldRecord (e : ExecutionError) : LogRecord where
  level := .debug
  part := .run
  message := "Execution error written to stream: ".toList ++
    e.templateName.getD "None".toList ++ ':' :: (e.line.map Text.ofInt).getD "None".toList

/-- Delivers an error to its sink. -/
def ErrorSink.deliver (sink : ErrorSink) (colour : Bool) (e : ExecutionError) : Delivery :=
  match sink with
  | .propagate => ⟨some (.template (.execution e)), [], [], []⟩
  | .callback f => ⟨f e, [e], [], []⟩
  | .stream s =>
    if s.room.any (· == 0) then ⟨some .streamFull, [], [], []⟩
    else ⟨none, [], s.errorText colour e, [toldRecord e]⟩

/-! ## Runs -/

/-- The record that a run leaves in the log when it begins. -/
def runningRecord (script : Script) (c : Config) : LogRecord where
  level := .debug
  part := .run
  message := "Running ".toList ++ script.name ++ " in namespace ".toList ++ c.identity

/-- How often a loop may go round. -/
def roundLimit : Nat := 1000000000

/-- What follows when code is stopped by an error on a line. Nothing in the run asks an error that is
passed on for its text. -/
def settle (colour : Bool) (s : Setting) (script : Script) (c : Config) (e : Thrown) (line : Nat)
    (m : Machine) : Delivery × Machine :=
  let error := c.output.errorOf e
  let plain (failure : Failure) : Delivery := ⟨some failure, [], [], []⟩
  if ! isOrdinary m.heap error then (plain (passOn s error m).1, m)
  else
    match describe s error m with
    | .done reason m =>
      let cause := ⟨m.heap.typeName error, .error error⟩
      (c.errors.deliver colour (executionError script c line cause reason), m)
    | .raised e _ m => (plain (passOn s (c.output.errorOf e) m).1, m)
    | .exhausted m => (plain .exhausted, m)

/-- Runs a script into a sink that is ready. -/
def runInto (colour : Bool) (executor : Executor) (escapes : Registry) (script : Script)
    (c : Config) (sink : OpenSink) (heap : Heap) (context : List (Text × Value)) : Report :=
  let s : Setting := ⟨sink.outlet, escapes, roundLimit⟩
  let start : Machine := ⟨newNamespace c.moduleName context, heap, [], []⟩
  let begun := [runningRecord script c]
  match executor s script start with
  | .done _ m =>
    { result :=
        .ok <|
          match c.output with
          | .captured => some m.output
          | _ => none
      written := m.output, delivered := [], told := [], tree := sink.close m.output
      log := begun ++ m.log.reverse }
  | .raised e line m =>
    let (d, m) := settle colour s script c e line m
    { result :=
        match d.failure with
        | some failure => .error failure
        | none => .ok none
      written := m.output, delivered := d.delivered, told := d.told, tree := sink.close m.output
      log := begun ++ m.log.reverse ++ d.log }
  | .exhausted m =>
    { result := .error .exhausted, written := m.output, delivered := [], told := []
      tree := sink.close m.output, log := begun ++ m.log.reverse }

/-- Runs a script. -/
def run (colour : Bool) (executor : Executor) (escapes : Registry) (script : Script) (c : Config)
    (tree : FileTree) (heap : Heap) (context : List (Text × Value)) : Report :=
  match c.output.open tree c.encoding with
  | (_, .ok sink) => runInto colour executor escapes script c sink heap context
  | (tree, .error failure) =>
    { result := .error failure, written := [], delivered := [], told := [], tree
      log := [runningRecord script c] }

end Stencil
