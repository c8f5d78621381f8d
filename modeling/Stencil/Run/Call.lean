import Stencil.Decimal.Read
import Stencil.Escape
import Stencil.Run.Iterate
import Stencil.Text.UpperCase
import Stencil.Value.Operate
import Stencil.Value.Written

/-!
# Calling

What calling a value does, functions that code has defined apart: those are called by a `Caller`,
which is given. Everything here happens on the line of the call.
-/

namespace Stencil

/-- How to call a function that code has defined: on which line, which function, with which
arguments, and with which named arguments. -/
abbrev Caller := Nat → Nat → List Value → List (Text × Value) → Action Value

/-! ## Texts of values -/

/-- The text of the arguments of an error, when they are not one alone. -/
def Heap.argumentsText (heap : Heap) (c : ClassId) (args : List Value) : Text :=
  let labelled (number text : Value) : Text :=
    "[Errno ".toList ++ heap.written number ++ "] ".toList ++
      match text with
      | .text t => t
      | v => heap.written v
  match heap.isKind c "OSError", args with
  | true, [number, text] => labelled number text
  | true, [number, text, file] => labelled number text ++ ": ".toList ++ heap.written file
  | _, [] => []
  | _, args => heap.written (.tuple args)

/-- The text of a value. An object of a class with a function `__str__` is asked for it. -/
def textOf (call : Caller) (line : Nat) (heap : Heap) : Value → Action Text
  | .text t => pure t
  | .foreign _ (.ok t) => pure t
  | .foreign _ (.error message) => Action.raise line (.value message)
  | .object c args shown =>
    match heap.classAttribute? c "__str__".toList with
    | some (.function f) => do
      match ← call line f [.object c args shown] [] with
      | .text t => return t
      | v =>
        Action.raise line (.type ("__str__ returned non-string (type ".toList ++
          (← Action.heap).typeName v ++ ")".toList))
    | _ =>
      if ! heap.isKind c "BaseException" then pure (opaqueText (heap.className c))
      else
        match shown, args with
        | some t, _ => pure t
        | none, [arg] =>
          if heap.isKind c "KeyError" then pure (heap.written arg) else textOf call line heap arg
        | none, args => pure (heap.argumentsText c args)
  | v => pure (heap.written v)

/-- The text of a value in the present state. -/
def currentText (call : Caller) (line : Nat) (v : Value) : Action Text := do
  textOf call line (← Action.heap) v

/-! ## What is found without a definition -/

/-- Functions that code finds but that have no meaning here beyond their names. -/
def otherFunctions : List Text :=
  ["abs", "aiter", "all", "anext", "any", "ascii", "bin", "breakpoint", "callable", "chr",
   "compile", "delattr", "dir", "divmod", "eval", "exec", "format", "getattr", "globals",
   "hasattr", "hash", "hex", "id", "input", "isinstance", "issubclass", "iter", "locals", "max",
   "min", "next", "oct", "open", "ord", "pow", "repr", "round", "setattr", "sorted", "sum",
   "vars"].map String.toList

/-- Types that code finds but that have no meaning here beyond their names. -/
def otherTypes : List Text :=
  ["bool", "bytearray", "bytes", "classmethod", "complex", "dict", "enumerate", "filter", "float",
   "frozenset", "list", "map", "memoryview", "object", "property", "reversed", "set", "slice",
   "staticmethod", "super", "tuple", "type", "zip"].map String.toList

/-- The value of a name that nothing has been bound to. -/
def builtin? (name : Text) : Option Value :=
  let named : List (Text × Builtin) :=
    [("len".toList, .len), ("str".toList, .str), ("int".toList, .int), ("range".toList, .range),
     ("print".toList, .print)]
  match named.lookup name with
  | some b => some (.builtin b)
  | none =>
    if isErrorClass name then some (.cls (.known name))
    else
      match errorAliases.lookup name with
      | some other => some (.cls (.known other))
      | none =>
        if otherFunctions.contains name then
          some (.foreign "builtin_function_or_method".toList
            (.ok ("<built-in function ".toList ++ name ++ ">".toList)))
        else if otherTypes.contains name then
          some (.foreign "type".toList (.ok ("<class '".toList ++ name ++ "'>".toList)))
        else if name = "Ellipsis".toList then some .ellipsis
        else if name = "NotImplemented".toList then
          some (.foreign "NotImplementedType".toList (.ok name))
        else none

/-! ## Output -/

/-- Writes values one after the other; the absent value is written as nothing. -/
def echo (s : Setting) (call : Caller) (line : Nat) (args : List Value)
    (named : List (Text × Value)) : Action Value := do
  match named.find? (·.1 != "sep".toList) with
  | some (k, _) =>
    Action.raise line (.type
      ("bind_output.<locals>.echo() got an unexpected keyword argument '".toList ++ k ++ ['\x27']))
  | none =>
    let text (v : Value) : Action Text :=
      match v with
      | .none => pure []
      | v => currentText call line v
    match (named.lookup "sep".toList).getD (.text []) with
    | .text sep =>
      let texts ← args.mapM text
      let _ ← Action.write s.outlet line (Text.join sep texts)
      return .none
    | .bytes mutable _ =>
      let texts ← args.mapM text
      match texts with
      | [] => Action.writeValue s.outlet line (.bytes mutable [])
      | _ =>
        Action.raise line (.type
          "sequence item 0: expected a bytes-like object, str found".toList)
    | v =>
      Action.raise line (.noAttribute ('\x27' :: (← Action.heap).typeName v ++
        "' object has no attribute 'join'".toList))

/-- Writes values with a separator between them and an end after them, each by itself. -/
def printValues (s : Setting) (call : Caller) (line : Nat) (args : List Value)
    (named : List (Text × Value)) : Action Value := do
  let known := ["sep", "end", "file", "flush"].map String.toList
  match named.find? fun entry => ! known.contains entry.1 with
  | some (k, _) =>
    Action.raise line (.type ('\x27' :: k ++
      "' is an invalid keyword argument for print()".toList))
  | none =>
    let heap ← Action.heap
    let mark (name : String) (default : Text) : Action Text :=
      match named.lookup name.toList with
      | none | some .none => pure default
      | some (.text t) => pure t
      | some v =>
        Action.raise line (.type (name.toList ++ " must be None or a string, not ".toList ++
          heap.typeName v))
    let sep ← mark "sep" [' ']
    let ending ← mark "end" ['\n']
    match named.lookup "file".toList with
    | some v =>
      Action.raise line (.noAttribute ('\x27' :: heap.typeName v ++
        "' object has no attribute 'write'".toList))
    | none =>
      printRest sep args
      let _ ← Action.write s.outlet line ending
      return .none
where
  /-- Writes values with a separator between them. -/
  printRest (sep : Text) : List Value → Action Unit
    | [] => pure ()
    | [v] => do let _ ← Action.write s.outlet line (← currentText call line v)
    | v :: vs => do
      let _ ← Action.write s.outlet line (← currentText call line v)
      let _ ← Action.write s.outlet line sep
      printRest sep vs

/-- Escapes a value in the style of a name, or in the default style. -/
def escapeValue (s : Setting) (call : Caller) (line : Nat) (name v : Value) : Action Value := do
  let heap ← Action.heap
  let apply (style : Style) : Action Value :=
    style.apply (currentText call line) (Action.raise line) v
  match name with
  | .none => apply (s.escapes.resolve none)
  | .text t =>
    Action.logAll (s.escapes.resolveLog (some t))
    apply (s.escapes.resolve (some t))
  | v =>
    Action.attempt line (heap.hashable Heap.depth v)
    Action.logAll [s.escapes.fallbackRecord (heap.written v)]
    apply s.escapes.defaultStyle

/-! ## Conversions -/

/-- What is said of a wrong number of arguments where one is wanted. -/
def wantsOne (name : String) (given : Nat) : Thrown :=
  .type (name.toList ++ "() takes exactly one argument (".toList ++ Text.ofNat given ++
    " given)".toList)

/-- The whole number that a value stands for. -/
def toWhole (heap : Heap) (v : Value) : Attempt Value :=
  let ofText (t written : Text) : Attempt Value :=
    match Decimal.readInt? t with
    | some n => .ok (.int n)
    | none =>
      .error (.value ("invalid literal for int() with base 10: ".toList ++ written.take 200))
  match v with
  | .text t => ofText t (Text.quoted t)
  | .bytes _ bs => ofText (bs.map byteChar) (Text.quotedBytes bs)
  | v =>
    match v.number? with
    | some (.whole n) => .ok (.int n)
    | some (.floating x) =>
      if x.isNaN then .error (.value "cannot convert float NaN to integer".toList)
      else if x.isInf then .error (.overflow "cannot convert float infinity to integer".toList)
      else
        let (m, q) := Number.exactly x
        .ok (.int (if q < 0 then m.tdiv (Nat.pow 2 (-q).toNat) else m * Nat.pow 2 q.toNat))
    | none =>
      .error (.type (("int() argument must be a string, a bytes-like object or a real " ++
        "number, not '").toList ++ heap.typeName v ++ "'".toList))

/-- A range between bounds. -/
def toRange (heap : Heap) (args : List Value) : Attempt Value := do
  let bounds ← args.mapM fun v =>
    match v.whole? with
    | some n => Except.ok n
    | none =>
      .error (.type ('\x27' :: heap.typeName v ++
        "' object cannot be interpreted as an integer".toList))
  match bounds with
  | [stop] => return .range 0 stop 1
  | [start, stop] => return .range start stop 1
  | [start, stop, step] =>
    if step = 0 then throw (.value "range() arg 3 must not be zero".toList)
    return .range start stop step
  | [] => throw (.type "range expected at least 1 argument, got 0".toList)
  | _ =>
    throw (.type ("range expected at most 3 arguments, got ".toList ++
      Text.ofNat args.length))

/-- The texts of a sequence with a text between them. -/
def joinValues (heap : Heap) (sep : Text) (v : Value) : Attempt Value :=
  match heap.elements v with
  | .error _ => .error (.type "can only join an iterable".toList)
  | .ok vs => do
    let texts ← vs.zipIdx.mapM fun entry =>
      match entry.1 with
      | .text t => Except.ok t
      | v =>
        .error (.type ("sequence item ".toList ++ Text.ofNat entry.2 ++
          ": expected str instance, ".toList ++ heap.typeName v ++ " found".toList))
    return .text (Text.join sep texts)

/-! ## Calls -/

/-- The error classes of system errors by their numbers. -/
def systemErrorClasses : List (Int × String) :=
  [(2, "FileNotFoundError"), (13, "PermissionError"), (17, "FileExistsError"),
   (20, "NotADirectoryError"), (21, "IsADirectoryError")]

/-- A new object of a class. -/
def construct (heap : Heap) (c : ClassId) (args : List Value) (named : List (Text × Value)) :
    Attempt Value :=
  let name := heap.className c
  if heap.isKind c "BaseException" then
    if ! named.isEmpty then .error (.type (name ++ "() takes no keyword arguments".toList))
    else
      match c, args with
      | .known known, number :: _ :: _ =>
        let special := (number.whole?.bind fun n => systemErrorClasses.lookup n).filter fun _ =>
          known == "OSError".toList
        .ok (.object (.known ((special.map String.toList).getD known)) args none)
      | c, args => .ok (.object c args none)
  else if args.isEmpty && named.isEmpty then .ok (.object c [] none)
  else .error (.type (name ++ "() takes no arguments".toList))

/-- Calls what is found without a definition. -/
def applyBuiltin (s : Setting) (call : Caller) (line : Nat) (b : Builtin) (args : List Value)
    (named : List (Text × Value)) : Action Value := do
  let heap ← Action.heap
  let plain (name : String) (action : Action Value) : Action Value :=
    if named.isEmpty then action
    else Action.raise line (.type (name.toList ++ "() takes no keyword arguments".toList))
  match b with
  | .write =>
    plain "write" <|
      match args with
      | [v] => Action.writeValue s.outlet line v
      | _ => Action.raise line (wantsOne "write" args.length)
  | .echo => echo s call line args named
  | .print => printValues s call line args named
  | .escape =>
    match args ++ ["name", "value"].filterMap fun k => named.lookup k.toList with
    | [name, v] => escapeValue s call line name v
    | _ => Action.raise line (.type "escape() takes a name and a value".toList)
  | .len =>
    plain "len" <|
      match args with
      | [v] => do return .int (← Action.attempt line (heap.length v))
      | _ => Action.raise line (wantsOne "len" args.length)
  | .str =>
    match args with
    | [] => return .text []
    | [v] => return .text (← currentText call line v)
    | _ :: v :: _ =>
      Action.raise line (.type ("str() argument 'encoding' must be str, not ".toList ++
        heap.typeName v))
  | .int =>
    match args with
    | [] => return .int 0
    | v :: _ => Action.attempt line (toWhole heap v)
  | .range => plain "range" (Action.attempt line (toRange heap args))
  | .module _ => Action.raise line (.type "'module' object is not callable".toList)
  | .generator => Action.raise line (.type "'generator' object is not callable".toList)

/-- Calls an operation that a value brings along. -/
def applyMethod (line : Nat) (self : Value) (m : Method) (args : List Value) :
    Action Value := do
  let heap ← Action.heap
  match m, self, args with
  | .upper, .text t, [] => return .text (Text.upper t)
  | .upper, _, args =>
    Action.raise line (.type ("str.upper() takes no arguments (".toList ++
      Text.ofNat args.length ++ " given)".toList))
  | .join, .text t, [v] => Action.attempt line (joinValues heap t v)
  | .join, _, args => Action.raise line (wantsOne "str.join" args.length)
  | .append, .list r, [v] =>
    Action.store r (.list (heap.items r ++ [v]))
    return .none
  | .append, _, args => Action.raise line (wantsOne "list.append" args.length)

/-- Calls a style as a function of one value. -/
def applyStyle (call : Caller) (line : Nat) (style : Style) (args : List Value) : Action Value :=
  match style, args with
  | .refusing _ message, _ => Action.raise line (.value message)
  | style, [v] => style.apply (currentText call line) (Action.raise line) v
  | style, args =>
    Action.raise line (.type (style.name ++ "() takes 1 positional argument but ".toList ++
      Text.ofNat args.length ++ " were given".toList))

/-- Calls a value. -/
def applyValue (s : Setting) (call : Caller) (line : Nat) (f : Value) (args : List Value)
    (named : List (Text × Value)) : Action Value := do
  match f with
  | .function r => call line r args named
  | .bound self r => call line r (self :: args) named
  | .cls c => Action.attempt line (construct (← Action.heap) c args named)
  | .builtin b => applyBuiltin s call line b args named
  | .method self m => applyMethod line self m args
  | .style style => applyStyle call line style args
  | v =>
    Action.raise line (.type ('\x27' :: (← Action.heap).typeName v ++
      "' object is not callable".toList))

end Stencil
