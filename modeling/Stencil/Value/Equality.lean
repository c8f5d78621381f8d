import Stencil.Code.Listing
import Stencil.Value.Number

/-!
# Equality and order of values

Values are equal when they look the same: numbers by size, texts and bytes by content, lists, tuples
and dictionaries item by item. Classes, functions and objects are equal only to themselves. Numbers,
texts, bytes, lists and tuples have an order; of two sequences the first items that differ decide.
-/

namespace Stencil

/-- The elements of a list when it is as long as another list and the elements agree one by one. -/
def allEqual (same : Value → Value → Bool) : List Value → List Value → Bool
  | [], [] => true
  | v :: vs, w :: ws => same v w && allEqual same vs ws
  | _, _ => false

/-- How many numbers there are from `start` on, up to `stop` and without it, in steps. -/
def rangeLength (start stop step : Int) : Nat :=
  if 0 < step then ((stop - start + step - 1).fdiv step).toNat
  else ((start - stop - step - 1).fdiv (-step)).toNat

namespace Heap

/-- Are two references to one function, class or foreign value? -/
def sameThing : Value → Value → Bool
  | .none, .none | .ellipsis, .ellipsis => true
  | .cls a, .cls b => a == b
  | .function a, .function b => a == b
  | .builtin a, .builtin b => a == b
  | .list a, .list b | .dict a, .dict b => a == b
  | .style a, .style b => a.name == b.name
  | _, _ => false

/-- Are two values equal? `n` bounds the depth to which they are looked into. -/
def equal (heap : Heap) : (n : Nat) → Value → Value → Bool
  | 0, _, _ => false
  | n + 1, v, w =>
    match v.number?, w.number? with
    | some a, some b => Number.equal a b
    | _, _ =>
      match v, w with
      | .text t, .text u => t == u
      | .bytes _ bs, .bytes _ cs => bs == cs
      | .tuple vs, .tuple ws => allEqual (heap.equal n) vs ws
      | .list r, .list s => r == s || allEqual (heap.equal n) (heap.items r) (heap.items s)
      | .dict r, .dict s =>
        let es := heap.entries r
        let fs := heap.entries s
        r == s || (es.length == fs.length && es.all fun e =>
          fs.any fun f => heap.equal n e.1 f.1 && heap.equal n e.2 f.2)
      | .range a b c, .range d e f =>
        let m := rangeLength a b c
        m == rangeLength d e f && (m == 0 || (a == d && (m == 1 || c == f)))
      | .bound u f, .bound v g => f == g && heap.equal n u v
      | v, w => sameThing v w

/-- How deep values may be looked into. -/
def depth : Nat := 1000

/-- Are two values equal? -/
def eq (heap : Heap) (v w : Value) : Bool := heap.equal depth v w

/-- Are two values one and the same? -/
def identical (heap : Heap) (v w : Value) : Bool :=
  match v, w with
  | .bool a, .bool b => a == b
  | .bool _, _ | _, .bool _ => false
  | .int a, .int b => a == b
  | .text t, .text u => t == u
  | .tuple vs, .tuple ws => allEqual heap.eq vs ws
  | v, w => sameThing v w

/-- What is said of values without an order. -/
def noOrder (heap : Heap) (op : Code.CompareOp) (v w : Value) : Thrown :=
  .type ('\x27' :: op.symbol ++ "' not supported between instances of '".toList ++
    heap.typeName v ++ "' and '".toList ++ heap.typeName w ++ "'".toList)

/-- Does an ordering satisfy a comparison? -/
def satisfies (op : Code.CompareOp) (o : Ordering) : Bool :=
  match op with
  | .lt => o == .lt
  | .le => o != .gt
  | .gt => o == .gt
  | .ge => o != .lt
  | _ => false

/-- The first pair of elements that differ, or how the lengths compare. -/
def firstDifference (same : Value → Value → Bool) :
    List Value → List Value → (Value × Value) ⊕ Ordering
  | [], [] => .inr .eq
  | [], _ :: _ => .inr .lt
  | _ :: _, [] => .inr .gt
  | v :: vs, w :: ws => if same v w then firstDifference same vs ws else .inl (v, w)

/-- Compares two values; `n` bounds the depth to which they are looked into. -/
def ordered (heap : Heap) (op : Code.CompareOp) : (n : Nat) → Value → Value → Attempt Bool
  | 0, v, w => .error (heap.noOrder op v w)
  | n + 1, v, w =>
    let sequences (vs ws : List Value) : Attempt Bool :=
      match firstDifference heap.eq vs ws with
      | .inl (v, w) => heap.ordered op n v w
      | .inr o => .ok (satisfies op o)
    match v.number?, w.number? with
    | some a, some b => .ok ((Number.compare? a b).any (satisfies op))
    | _, _ =>
      match v, w with
      | .text t, .text u => .ok (satisfies op (compareOfLessAndEq t u))
      | .bytes _ bs, .bytes _ cs =>
        .ok (satisfies op (compareOfLessAndEq (bs.map UInt8.toNat) (cs.map UInt8.toNat)))
      | .tuple vs, .tuple ws => sequences vs ws
      | .list r, .list s => sequences (heap.items r) (heap.items s)
      | v, w => .error (heap.noOrder op v w)

/-- Does the value count as true in a condition? -/
def truth (heap : Heap) : Value → Bool
  | .none => false
  | .bool b => b
  | .int n => n != 0
  | .float x => ! (x == 0.0)
  | .text t => ! t.isEmpty
  | .bytes _ bs => ! bs.isEmpty
  | .tuple vs => ! vs.isEmpty
  | .list r => ! (heap.items r).isEmpty
  | .dict r => ! (heap.entries r).isEmpty
  | .range a b c => if 0 < c then a < b else b < a
  | _ => true

/-- Can the value be a key? -/
def hashable (heap : Heap) : (n : Nat) → Value → Attempt Unit
  | 0, _ => .ok ()
  | n + 1, v =>
    match v with
    | .list _ | .dict _ | .bytes true _ | .slice .. =>
      .error (.type ("unhashable type: '".toList ++ heap.typeName v ++ "'".toList))
    | .tuple vs => vs.forM (heap.hashable n)
    | _ => .ok ()

end Heap

end Stencil
