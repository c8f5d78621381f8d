import Stencil.Value.Items

/-!
# Operators on values

Numbers are calculated with; texts, bytes, lists and tuples are put together and repeated. An
operation *in place* changes the list on its left.
-/

namespace Stencil

/-- Several copies of a list, one after the other. -/
def repeated {α : Type} (items : List α) (n : Int) : List α :=
  (List.replicate n.toNat items).flatten

namespace Heap

/-- What is said of operands that do not fit an operator. -/
def badOperands (heap : Heap) (op : Text) (v w : Value) : Thrown :=
  .type ("unsupported operand type(s) for ".toList ++ op ++ ": '".toList ++ heap.typeName v ++
    "' and '".toList ++ heap.typeName w ++ "'".toList)

/-- What is said of something that cannot be put behind a sequence. -/
def badConcat (heap : Heap) (noun : String) (w : Value) : Thrown :=
  .type ("can only concatenate ".toList ++ noun.toList ++ " (not \"".toList ++ heap.typeName w ++
    "\") to ".toList ++ noun.toList)

/-- What is said of a sequence that is not multiplied by a whole number. -/
def badCount (heap : Heap) (w : Value) : Thrown :=
  .type ("can't multiply sequence by non-int of type '".toList ++ heap.typeName w ++ "'".toList)

/-- Is the value a sequence that can be repeated? -/
def isSequence : Value → Bool
  | .text _ | .bytes .. | .tuple _ | .list _ => true
  | _ => false

/-- How many items a sequence may have after it has been repeated. -/
def repeatLimit : Nat := 1000000000

/-- A sequence repeated. -/
def repeatValue (heap : Heap) (v w : Value) : Attempt (Value × Heap) :=
  match w.whole? with
  | none => .error (heap.badCount w)
  | some n =>
    if (repeatLimit : Int) < n * ((heap.length v).toOption.getD 0 : Nat) then
      .error (.error (.object (.known "MemoryError".toList) [] none))
    else
    match v with
    | .text t => .ok (.text (repeated t n), heap)
    | .bytes mutable bs => .ok (.bytes mutable (repeated bs n), heap)
    | .tuple vs => .ok (.tuple (repeated vs n), heap)
    | .list r =>
      let (ref, heap) := heap.alloc (.list (repeated (heap.items r) n))
      .ok (.list ref, heap)
    | v => .error (heap.badCount v)

/-- An arithmetic operator; `spelling` is how messages write it. -/
def operate (heap : Heap) (op : Code.BinaryOp) (spelling : Text) (v w : Value) :
    Attempt (Value × Heap) :=
  match v.number?, w.number? with
  | some a, some b => return (← Number.operate op a b, heap)
  | _, _ =>
    match op with
    | .add =>
      match v, w with
      | .text t, .text u => .ok (.text (t ++ u), heap)
      | .text _, w => .error (heap.badConcat "str" w)
      | .bytes mutable bs, .bytes _ cs => .ok (.bytes mutable (bs ++ cs), heap)
      | .bytes mutable _, w =>
        .error (.type ("can't concat ".toList ++ heap.typeName w ++ " to ".toList ++
          if mutable then "bytearray".toList else "bytes".toList))
      | .tuple vs, .tuple ws => .ok (.tuple (vs ++ ws), heap)
      | .tuple _, w => .error (heap.badConcat "tuple" w)
      | .list r, .list s =>
        let (ref, heap) := heap.alloc (.list (heap.items r ++ heap.items s))
        .ok (.list ref, heap)
      | .list _, w => .error (heap.badConcat "list" w)
      | v, w => .error (heap.badOperands spelling v w)
    | .mul =>
      if isSequence v then heap.repeatValue v w
      else if isSequence w then heap.repeatValue w v
      else .error (heap.badOperands spelling v w)
    | .mod =>
      match v with
      | .text _ => .error (.type "not all arguments converted during string formatting".toList)
      | v => .error (heap.badOperands spelling v w)
    | _ => .error (heap.badOperands spelling v w)

/-- An operator before an operand, `not` apart. -/
def operateUnary (heap : Heap) (op : Code.UnaryOp) (v : Value) : Attempt Value :=
  match op, v.number? with
  | .not, _ => .ok (.bool (! heap.truth v))
  | .negative, some (.whole n) => .ok (.int (-n))
  | .negative, some (.floating x) => .ok (.float (-x))
  | .positive, some n => .ok n.toValue
  | op, none =>
    .error (.type ("bad operand type for unary ".toList ++ op.symbol ++ ": '".toList ++
      heap.typeName v ++ "'".toList))

/-- A comparison. -/
def compareValues (heap : Heap) (op : Code.CompareOp) (v w : Value) : Attempt Bool :=
  match op with
  | .eq => .ok (heap.eq v w)
  | .ne => .ok (! heap.eq v w)
  | .is => .ok (heap.identical v w)
  | .isNot => .ok (! heap.identical v w)
  | .isIn => heap.contains v w
  | .notIn => (heap.contains v w).map (! ·)
  | .lt | .le | .gt | .ge => heap.ordered op depth v w

end Heap

end Stencil
