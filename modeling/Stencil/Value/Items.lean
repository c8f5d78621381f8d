import Stencil.Value.Equality

/-!
# Items of values

Length, membership, subscripts and slices. A position may be counted from the end by a negative
number; a slice is cut to fit.
-/

namespace Stencil

/-! ## Positions -/

/-- The position that an index means in a sequence of a given length. -/
def position? (length : Nat) (index : Int) : Option Nat :=
  let i := if index < 0 then index + length else index
  if 0 ≤ i ∧ i < length then some i.toNat else none

/-- A bound of a slice, cut to lie between `low` and `high`. -/
def clampBound (length : Nat) (low high : Int) (bound : Int) : Int :=
  let i := if bound < 0 then bound + length else bound
  max low (min high i)

/-- The bound that a value gives. -/
def sliceBound : Value → Attempt (Option Int)
  | .none => .ok none
  | v =>
    match v.whole? with
    | some n => .ok (some n)
    | none =>
      .error (.type
        "slice indices must be integers or None or have an __index__ method".toList)

/-- Where a slice starts and stops in a sequence of a given length, and its step. -/
def sliceRange (length : Nat) (lower upper step : Value) : Attempt (Int × Int × Int) := do
  let step := (← sliceBound step).getD 1
  if step = 0 then throw (.value "slice step cannot be zero".toList)
  let (low, high) : Int × Int := if 0 < step then (0, length) else (-1, (length : Int) - 1)
  let bound (v : Value) (default : Int) : Attempt Int := do
    return ((← sliceBound v).map (clampBound length low high)).getD default
  let start ← bound lower (if 0 < step then low else high)
  let stop ← bound upper (if 0 < step then high else low)
  return (start, stop, step)

/-- The elements that a slice picks. -/
def pick {α : Type} (items : List α) (start stop step : Int) : List α :=
  let array := items.toArray
  (List.range (rangeLength start stop step)).filterMap fun i : Nat =>
    array[(start + step * i).toNat]?

/-- The character whose code point is a byte. -/
def byteChar (b : UInt8) : Char := Char.ofNat b.toNat

namespace Heap

/-! ## Length and membership -/

/-- The number of items of a value. -/
def length (heap : Heap) (v : Value) : Attempt Nat :=
  match v with
  | .text t => .ok t.length
  | .bytes _ bs => .ok bs.length
  | .tuple vs => .ok vs.length
  | .list r => .ok (heap.items r).length
  | .dict r => .ok (heap.entries r).length
  | .range a b c => .ok (rangeLength a b c)
  | v => .error (.type ("object of type '".toList ++ heap.typeName v ++ "' has no len()".toList))

/-- Is `v` an item of `w`? -/
def contains (heap : Heap) (v w : Value) : Attempt Bool :=
  match w with
  | .text t =>
    match v with
    | .text u => .ok (Text.hasMark t u)
    | v =>
      .error (.type ("'in <string>' requires string as left operand, not ".toList ++
        heap.typeName v))
  | .bytes _ bs =>
    match v with
    | .bytes _ cs => .ok (Text.hasMark (bs.map byteChar) (cs.map byteChar))
    | v =>
      match v.whole? with
      | some n =>
        if 0 ≤ n ∧ n < 256 then .ok (bs.contains n.toNat.toUInt8)
        else .error (.value "byte must be in range(0, 256)".toList)
      | none =>
        .error (.type ("a bytes-like object is required, not '".toList ++ heap.typeName v ++
          "'".toList))
  | .tuple vs => .ok (vs.any fun w => heap.identical v w || heap.eq v w)
  | .list r => .ok ((heap.items r).any fun w => heap.identical v w || heap.eq v w)
  | .dict r => do
    heap.hashable depth v
    return (heap.entries r).any fun e => heap.eq v e.1
  | .range a b c =>
    match v.number? with
    | some n =>
      .ok ((List.range (rangeLength a b c)).any fun i : Nat =>
        Number.equal n (.whole (a + c * i)))
    | none => .ok false
  | w => .error (.type ("argument of type '".toList ++ heap.typeName w ++
      "' is not iterable".toList))

/-! ## Subscripts -/

/-- The item of a sequence at an index. `noun` names the sequence where the index is of a wrong
type, and `outside` is said when there is no such item. -/
def itemAt {α : Type} (heap : Heap) (noun outside : String) (quoted : Bool) (items : List α)
    (index : Value) (item : α → Value) : Attempt Value :=
  match index.whole? with
  | some n =>
    match (position? items.length n).bind fun i => items[i]? with
    | some a => .ok (item a)
    | none => .error (.index outside.toList)
  | none =>
    let name := heap.typeName index
    .error (.type (noun.toList ++
      if quoted then " indices must be integers, not '".toList ++ name ++ "'".toList
      else " indices must be integers or slices, not ".toList ++ name))

/-- The value of a key. -/
def lookup (heap : Heap) (ref : Nat) (key : Value) : Option Value :=
  ((heap.entries ref).find? fun e => heap.eq key e.1).map Prod.snd

/-- The item, or the slice, that a subscript picks. A slice of a list is a new list. -/
def subscript (heap : Heap) (v index : Value) : Attempt (Value × Heap) :=
  match v, index with
  | .text t, .slice a b c => do
    let (start, stop, step) ← sliceRange t.length a b c
    return (.text (pick t start stop step), heap)
  | .text t, i => return (← heap.itemAt "string" "string index out of range" true t i
      fun c => .text [c], heap)
  | .bytes mutable bs, .slice a b c => do
    let (start, stop, step) ← sliceRange bs.length a b c
    return (.bytes mutable (pick bs start stop step), heap)
  | .bytes _ bs, i => return (← heap.itemAt "byte" "index out of range" false bs i
      fun b => .int b.toNat, heap)
  | .tuple vs, .slice a b c => do
    let (start, stop, step) ← sliceRange vs.length a b c
    return (.tuple (pick vs start stop step), heap)
  | .tuple vs, i => return (← heap.itemAt "tuple" "tuple index out of range" false vs i id, heap)
  | .list r, .slice a b c => do
    let items := heap.items r
    let (start, stop, step) ← sliceRange items.length a b c
    let (ref, heap) := heap.alloc (.list (pick items start stop step))
    return (.list ref, heap)
  | .list r, i =>
    return (← heap.itemAt "list" "list index out of range" false (heap.items r) i id, heap)
  | .dict r, k => do
    heap.hashable depth k
    match heap.lookup r k with
    | some v => return (v, heap)
    | none => throw (.key k)
  | .range start stop step, .slice a b c => do
    let (i, j, k) ← sliceRange (rangeLength start stop step) a b c
    return (.range (start + step * i) (start + step * j) (step * k), heap)
  | .range start stop step, i =>
    let numbers := (List.range (rangeLength start stop step)).map fun i : Nat =>
      start + step * (i : Int)
    return (← heap.itemAt "range" "range object index out of range" false numbers i
      Value.int, heap)
  | v, _ =>
    .error (.type ('\x27' :: heap.typeName v ++ "' object is not subscriptable".toList))

/-- Puts an item into a list or a dictionary. -/
def setItem (heap : Heap) (v index item : Value) : Attempt Heap :=
  match v with
  | .list r =>
    let items := heap.items r
    match index.whole? with
    | some n =>
      match position? items.length n with
      | some i => .ok (heap.setIfInBounds r (.list (items.set i item)))
      | none => .error (.index "list assignment index out of range".toList)
    | none =>
      .error (.type ("list indices must be integers or slices, not ".toList ++
        heap.typeName index))
  | .dict r => do
    heap.hashable depth index
    let entries := heap.entries r
    let entries :=
      if entries.any fun e => heap.eq index e.1 then
        entries.map fun e => if heap.eq index e.1 then (e.1, item) else e
      else entries ++ [(index, item)]
    return heap.setIfInBounds r (.dict entries)
  | v =>
    .error (.type ('\x27' :: heap.typeName v ++
      "' object does not support item assignment".toList))

/-- Takes an item out of a list or a dictionary. -/
def deleteItem (heap : Heap) (v index : Value) : Attempt Heap :=
  match v with
  | .list r =>
    let items := heap.items r
    match index.whole? with
    | some n =>
      match position? items.length n with
      | some i => .ok (heap.setIfInBounds r (.list (items.eraseIdx i)))
      | none => .error (.index "list assignment index out of range".toList)
    | none =>
      .error (.type ("list indices must be integers or slices, not ".toList ++
        heap.typeName index))
  | .dict r => do
    heap.hashable depth index
    let entries := heap.entries r
    if entries.any fun e => heap.eq index e.1 then
      return heap.setIfInBounds r (.dict (entries.filter fun e => ! heap.eq index e.1))
    else throw (.key index)
  | .text _ | .tuple _ | .bytes false _ | .range .. =>
    .error (.type ('\x27' :: heap.typeName v ++ "' object doesn't support item deletion".toList))
  | v =>
    .error (.type ('\x27' :: heap.typeName v ++
      "' object does not support item deletion".toList))

end Heap

end Stencil
