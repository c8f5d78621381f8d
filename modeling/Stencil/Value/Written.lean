import Stencil.Code.Listing
import Stencil.Value.Basic

/-!
# Written form of values

How a value is written inside a list, and the text of a value where no code has a say in it. A list
or dictionary that holds itself is cut short where it comes up again.
-/

namespace Stencil

/-- A slice bound or another value that is only ever seen in messages. -/
def opaqueText (typeName : Text) : Text := '<' :: typeName ++ " object>".toList

mutual

/-- The written form of a value; `cell` writes the cell that a reference leads to. -/
def Value.written (heap : Heap) (cell : Nat → Text) : Value → Text
  | .none => "None".toList
  | .ellipsis => "Ellipsis".toList
  | .bool true => "True".toList
  | .bool false => "False".toList
  | .int n => Text.ofInt n
  | .float x => Decimal.floatText x
  | .text t => Text.quoted t
  | .bytes mutable bs =>
    if mutable then Text.quotedBuffer bs else Text.quotedBytes bs
  | .tuple items => '(' :: Code.tupleText (Value.writtenAll heap cell items) ++ ")".toList
  | .list ref | .dict ref => cell ref
  | .range start stop step =>
    let bounds := [start, stop] ++ if step = 1 then [] else [step]
    "range(".toList ++ Text.join ", ".toList (bounds.map Text.ofInt) ++ ")".toList
  | .slice lower upper step =>
    "slice(".toList ++ Text.join ", ".toList
      [lower.written heap cell, upper.written heap cell, step.written heap cell] ++ ")".toList
  | .object c args _ =>
    heap.className c ++ '(' :: Text.join ", ".toList (Value.writtenAll heap cell args) ++
      ")".toList
  | .cls id =>
    let name :=
      match id with
      | .known name => name
      | .defined ref => ((heap.class? ref).map ClassCell.fullName).getD []
    "<class '".toList ++ name ++ "'>".toList
  | .builtin (.module name) => "<module '".toList ++ name ++ "' (built-in)>".toList
  | .builtin .str => "<class 'str'>".toList
  | .builtin .int => "<class 'int'>".toList
  | .builtin .range => "<class 'range'>".toList
  | .builtin .len => "<built-in function len>".toList
  | v => opaqueText (heap.typeName v)

/-- The written forms of several values. -/
def Value.writtenAll (heap : Heap) (cell : Nat → Text) : List Value → List Text
  | [] => []
  | v :: vs => v.written heap cell :: Value.writtenAll heap cell vs

end

namespace Heap

/-- The written form of a cell; `active` are the cells being written, and `n` bounds their
number. -/
def writtenCell (heap : Heap) : (n : Nat) → (active : List Nat) → Nat → Text
  | 0, _, _ => "...".toList
  | n + 1, active, ref =>
    let inner := heap.writtenCell n (ref :: active)
    match heap[ref]? with
    | some (.list items) =>
      if active.contains ref then "[...]".toList
      else '[' :: Text.join ", ".toList (Value.writtenAll heap inner items) ++ "]".toList
    | some (.dict entries) =>
      if active.contains ref then "\x7b...\x7d".toList
      else
        let entryText (entry : Value × Value) : Text :=
          entry.1.written heap inner ++ ": ".toList ++ entry.2.written heap inner
        '\x7b' :: Text.join ", ".toList (entries.map entryText) ++ ['\x7d']
    | _ => []

/-- The written form of a value. -/
def written (heap : Heap) (v : Value) : Text :=
  v.written heap (heap.writtenCell (heap.size + 1) [])

end Heap

end Stencil
