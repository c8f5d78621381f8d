import Stencil.Run.Machine
import Stencil.Value.Items

/-!
# Going through values

What a loop, an assignment to several targets or a joining goes through. A list may change while a
loop goes through it, and the loop sees the change; a dictionary may not.
-/

namespace Stencil

/-- Where a loop stands in what it goes through. -/
inductive Iter where
  | values (rest : List Value)
  /-- The items of a list, from a position on. -/
  | list (ref position : Nat)
  /-- The keys of a dictionary that had a given number of entries. -/
  | dict (ref size : Nat) (keys : List Value)
  /-- Numbers in steps, and how many are left. -/
  | range (next step : Int) (left : Nat)

namespace Heap

/-- What is said of a value that cannot be gone through. -/
def notIterable (heap : Heap) (v : Value) : Thrown :=
  .type ('\x27' :: heap.typeName v ++ "' object is not iterable".toList)

/-- The beginning of a loop through a value. -/
def iterate (heap : Heap) (v : Value) : Attempt Iter :=
  match v with
  | .text t => .ok (.values (t.map fun c => .text [c]))
  | .bytes _ bs => .ok (.values (bs.map fun b => .int b.toNat))
  | .tuple vs => .ok (.values vs)
  | .list r => .ok (.list r 0)
  | .dict r =>
    let entries := heap.entries r
    .ok (.dict r entries.length (entries.map Prod.fst))
  | .range start stop step => .ok (.range start step (rangeLength start stop step))
  | v => .error (heap.notIterable v)

/-- All that a value goes through. -/
def elements (heap : Heap) (v : Value) : Attempt (List Value) :=
  match v with
  | .list r => .ok (heap.items r)
  | .range start stop step =>
    .ok ((List.range (rangeLength start stop step)).map fun i : Nat => .int (start + step * i))
  | v => do
    match ← heap.iterate v with
    | .values vs | .dict _ _ vs => return vs
    | _ => return []

/-- The elements of a value, which must be as many as there are targets. -/
def unpack (heap : Heap) (count : Nat) (v : Value) : Attempt (List Value) :=
  match heap.elements v with
  | .error _ =>
    .error (.type ("cannot unpack non-iterable ".toList ++ heap.typeName v ++
      " object".toList))
  | .ok vs =>
    if vs.length = count then .ok vs
    else if vs.length < count then
      .error (.value ("not enough values to unpack (expected ".toList ++ Text.ofNat count ++
        ", got ".toList ++ Text.ofNat vs.length ++ ")".toList))
    else
      .error (.value ("too many values to unpack (expected ".toList ++ Text.ofNat count ++
        ")".toList))

end Heap

/-- The next element of a loop, and where it stands after that. -/
def Iter.next (heap : Heap) : Iter → Attempt (Option (Value × Iter))
  | .values [] => .ok none
  | .values (v :: rest) => .ok (some (v, .values rest))
  | .list ref position =>
    .ok (((heap.items ref)[position]?).map fun v => (v, .list ref (position + 1)))
  | .dict ref size keys =>
    if (heap.entries ref).length ≠ size then
      .error (.ofMessage "RuntimeError" "dictionary changed size during iteration".toList)
    else
      match keys with
      | [] => .ok none
      | k :: keys => .ok (some (k, .dict ref size keys))
  | .range next step left =>
    match left with
    | 0 => .ok none
    | left + 1 => .ok (some (.int next, .range (next + step) step left))

/-- How a statement ends. -/
inductive Flow where
  /-- The next statement follows. -/
  | next
  /-- The function is left with a value. -/
  | leave (v : Value)
  /-- The loop is left. -/
  | break
  /-- The loop goes on with its next round. -/
  | continue

namespace Action

/-- Goes round a loop for every element. The answer is `next` when all elements have been gone
through. -/
def forEach (line : Nat) (body : Value → Action Flow) : (rounds : Nat) → Iter → Action Flow
  | 0, _ => exhaust
  | rounds + 1, iter => do
    match ← attempt line (iter.next (← heap)) with
    | none => return .next
    | some (v, iter) =>
      match ← body v with
      | .next | .continue => forEach line body rounds iter
      | flow => return flow

/-- Goes round a loop as long as a condition holds. -/
def whileTrue (test : Action Bool) (body : Action Flow) : (rounds : Nat) → Action Flow
  | 0 => exhaust
  | rounds + 1 => do
    if ← test then
      match ← body with
      | .next | .continue => whileTrue test body rounds
      | flow => return flow
    else return .next

/-- What follows a loop: the other statements when it was not broken off. -/
def afterLoop (orelse : Action Flow) : Flow → Action Flow
  | .next => orelse
  | .leave v => pure (.leave v)
  | .break | .continue => pure .next

end Action

end Stencil
