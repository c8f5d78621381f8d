import Stencil.Code.Tree
import Stencil.Value.ErrorClass

/-!
# Values

What the variables of a template stand for. Numbers, texts, bytes, tuples and errors are values by
themselves; lists, dictionaries, functions and classes live in the cells of a *heap* and values
refer to them, so that two variables can share one list. Values from outside that code can only
write out are *foreign*.

An *escaping style* turns a value into what is written for it.
-/

namespace Stencil

/-- A class: an error class known to all code, or one that code has defined. -/
inductive ClassId where
  | known (name : Text)
  | defined (ref : Nat)
  deriving DecidableEq, Repr

/-- What code finds without defining it. -/
inductive Builtin where
  /-- Writes a text to the output. -/
  | write
  /-- Writes values one after the other. -/
  | echo
  /-- Writes a line of values. -/
  | print
  /-- Escapes a value in a style. -/
  | escape
  | len
  | str
  | int
  | range
  /-- A module, by its name. -/
  | module (name : Text)
  /-- What calling a function that hands out values gives. -/
  | generator
  deriving DecidableEq, Repr

/-- Operations that a value brings along. -/
inductive Method where
  | upper
  | join
  | append
  deriving DecidableEq, Repr

mutual

/-- A value of a variable. -/
inductive Value where
  | none
  | ellipsis
  | bool (b : Bool)
  | int (n : Int)
  | float (x : Float)
  | text (t : Text)
  | bytes (mutable : Bool) (bs : List UInt8)
  | tuple (items : List Value)
  | list (ref : Nat)
  | dict (ref : Nat)
  | range (start stop step : Int)
  /-- The bounds of a slice. -/
  | slice (lower upper step : Value)
  /-- An object of a class: an error with its arguments. Errors raised by the machine itself may
  bring their own text. -/
  | object (cls : ClassId) (args : List Value) (shown : Option Text)
  | cls (id : ClassId)
  | function (ref : Nat)
  /-- A function of a class together with the object it acts on. -/
  | bound (self : Value) (function : Nat)
  | builtin (b : Builtin)
  | method (self : Value) (m : Method)
  | style (s : Style)
  /-- A value of a class from outside, with its text or with the message of the error that asking
  for its text raises. -/
  | foreign (typeName : Text) (shown : Except Text Text)

/-- An escaping style. All but the first three bear a name. -/
inductive Style where
  /-- Markup characters become numeric references. -/
  | xml
  /-- Bytes outside the unreserved set are percent-encoded. -/
  | uri
  /-- The text of the value as it is. -/
  | raw
  /-- A function of the text of the value. -/
  | ofText (name : Text) (f : Text → Text)
  /-- The same value always. -/
  | constant (name : Text) (v : Value)
  /-- Refuses every value with a message. -/
  | refusing (name message : Text)
  /-- Something of a type that cannot be called. -/
  | uncallable (name typeName : Text)

end

instance : Inhabited Value := ⟨.none⟩

/-- The name of a style. -/
def Style.name : Style → Text
  | .xml => "xml".toList
  | .uri => "uri".toList
  | .raw => "raw".toList
  | .ofText name _ | .constant name _ | .refusing name _ | .uncallable name _ => name

/-! ## Errors -/

/-- What a run is stopped by: an error object, or something that is no text and was to be written
(its message depends on where the output goes). -/
inductive Thrown where
  | error (v : Value)
  | notText (typeName : Text)

/-- An operation that may fail. -/
abbrev Attempt := Except Thrown

namespace Thrown

/-- An error of a known class with a message. -/
def ofMessage (cls : String) (message : Text) : Thrown :=
  .error (.object (.known cls.toList) [.text message] none)

/-- A value of the wrong type. -/
def type (message : Text) : Thrown := ofMessage "TypeError" message

/-- A value of the right type that will not do. -/
def value (message : Text) : Thrown := ofMessage "ValueError" message

/-- A position outside a sequence. -/
def index (message : Text) : Thrown := ofMessage "IndexError" message

/-- A key that a dictionary does not have. -/
def key (k : Value) : Thrown := .error (.object (.known "KeyError".toList) [k] none)

/-- Something that a value does not have. -/
def noAttribute (message : Text) : Thrown := ofMessage "AttributeError" message

/-- A number too large for the result. -/
def overflow (message : Text) : Thrown := ofMessage "OverflowError" message

/-- A division by zero. -/
def zeroDivision (message : Text) : Thrown := ofMessage "ZeroDivisionError" message

end Thrown

/-! ## Cells -/

/-- A function that code has defined. The defaults belong to the last parameters; `outer` are the
names and the frames of the functions around it, the innermost first. -/
structure FunctionCell where
  name : Text
  qualifiedName : Text
  params : List Text
  defaults : List Value
  body : List Code.Stmt
  localNames : List Text
  outer : List (List Text × Nat)

/-- A class that code has defined. -/
structure ClassCell where
  name : Text
  /-- The name with those of the module and of everything around it. -/
  fullName : Text
  bases : List ClassId
  attributes : List (Text × Value)

/-- What a reference leads to. -/
inductive Cell where
  | list (items : List Value)
  /-- A dictionary, in order of insertion. -/
  | dict (entries : List (Value × Value))
  /-- The variables of a call. -/
  | frame (names : List (Text × Value))
  | function (f : FunctionCell)
  | cls (c : ClassCell)

/-- The cells of a run. -/
abbrev Heap := Array Cell

namespace Heap

/-- Puts a cell at the end, and gives the reference to it. -/
def alloc (heap : Heap) (cell : Cell) : Nat × Heap := (heap.size, heap.push cell)

/-- The items of a list. -/
def items (heap : Heap) (ref : Nat) : List Value :=
  match heap[ref]? with
  | some (.list items) => items
  | _ => []

/-- The entries of a dictionary. -/
def entries (heap : Heap) (ref : Nat) : List (Value × Value) :=
  match heap[ref]? with
  | some (.dict entries) => entries
  | _ => []

/-- The variables of a call. -/
def names (heap : Heap) (ref : Nat) : List (Text × Value) :=
  match heap[ref]? with
  | some (.frame names) => names
  | _ => []

/-- A function. -/
def function? (heap : Heap) (ref : Nat) : Option FunctionCell :=
  match heap[ref]? with
  | some (.function f) => some f
  | _ => none

/-- A class. -/
def class? (heap : Heap) (ref : Nat) : Option ClassCell :=
  match heap[ref]? with
  | some (.cls c) => some c
  | _ => none

/-- The name of a class. -/
def className (heap : Heap) : ClassId → Text
  | .known name => name
  | .defined ref => ((heap.class? ref).map ClassCell.name).getD []

/-- A class and the classes it is a special case of, nearest first; `n` bounds the depth. -/
def lineage (heap : Heap) : (n : Nat) → ClassId → List ClassId
  | 0, _ => []
  | _, .known name => (errorLineage name 100).map ClassId.known
  | n + 1, .defined ref =>
    .defined ref :: (((heap.class? ref).map ClassCell.bases).getD []).flatMap (heap.lineage n)

/-- Is a class the known class of this name, or a special case of it? -/
def isKind (heap : Heap) (cls : ClassId) (name : String) : Bool :=
  (heap.lineage (heap.size + 1) cls).contains (.known name.toList)

/-- Something that a class, or a class it is a special case of, has under a name. -/
def classAttribute? (heap : Heap) (cls : ClassId) (name : Text) : Option Value :=
  (heap.lineage (heap.size + 1) cls).findSome? fun
    | .known _ => none
    | .defined ref => (heap.class? ref).bind fun c => c.attributes.lookup name

/-- The name of the type of a value. -/
def typeName (heap : Heap) : Value → Text
  | .none => "NoneType".toList
  | .ellipsis => "ellipsis".toList
  | .bool _ => "bool".toList
  | .int _ => "int".toList
  | .float _ => "float".toList
  | .text _ => "str".toList
  | .bytes mutable _ => if mutable then "bytearray".toList else "bytes".toList
  | .tuple _ => "tuple".toList
  | .list _ => "list".toList
  | .dict _ => "dict".toList
  | .range .. => "range".toList
  | .slice .. => "slice".toList
  | .object cls _ _ => heap.className cls
  | .cls _ => "type".toList
  | .function _ => "function".toList
  | .bound .. => "method".toList
  | .builtin b =>
    match b with
    | .write | .len => "builtin_function_or_method".toList
    | .echo => "function".toList
    | .print => "functools.partial".toList
    | .escape => "method".toList
    | .str | .int | .range => "type".toList
    | .module _ => "module".toList
    | .generator => "generator".toList
  | .method .. => "builtin_function_or_method".toList
  | .style (.uncallable _ typeName) => typeName
  | .style _ => "function".toList
  | .foreign typeName _ => typeName

end Heap

end Stencil
