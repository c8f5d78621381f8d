import Stencil.Log
import Stencil.Registry

/-!
# The machine that code runs on

The state of a run: the variables of the top level, the cells, what has been written, and what has
been logged. An action changes the state and ends in one of three ways: it is done, an error is
raised on some line, or it has used up the steps it was given.

Where the output goes is no part of the state. An *outlet* only decides which texts it takes, by
what has been written before, so that runs into different outlets that take everything are the same
run.
-/

namespace Stencil

/-- Where output goes, as far as code can tell: whether a text is refused, given the number of texts
taken before it, and whether writing gives back the length of the text. -/
structure Outlet where
  refuse? : (taken : Nat) → Text → Option Thrown
  givesLength : Bool

/-- An outlet that takes every text. -/
def Outlet.open : Outlet := ⟨fun _ _ => none, true⟩

/-- What stays the same during a run. -/
structure Setting where
  outlet : Outlet
  escapes : Registry
  /-- How often a loop may go round. -/
  rounds : Nat

/-- The state of a run. Texts written and records logged stand with the latest first. -/
structure Machine where
  globals : List (Text × Value)
  heap : Heap
  written : List Text
  log : List LogRecord

/-- All that has been written. -/
def Machine.output (m : Machine) : Text := m.written.reverse.flatten

/-- How an action ends. -/
inductive Outcome (α : Type) where
  | done (a : α) (m : Machine)
  /-- An error, and the innermost line of code that was at work. -/
  | raised (e : Thrown) (line : Nat) (m : Machine)
  /-- The action went on for too long. -/
  | exhausted (m : Machine)

/-- The state that an outcome leaves. -/
def Outcome.machine {α : Type} : Outcome α → Machine
  | .done _ m | .raised _ _ m | .exhausted m => m

/-- An action of the machine. -/
def Action (α : Type) : Type := Machine → Outcome α

namespace Action

/-- Does nothing but give a value. -/
def pure {α : Type} (a : α) : Action α := fun m => .done a m

/-- One action after the other; the second may use what the first gives. -/
def bind {α β : Type} (x : Action α) (f : α → Action β) : Action β := fun m =>
  match x m with
  | .done a m => f a m
  | .raised e line m => .raised e line m
  | .exhausted m => .exhausted m

instance : Monad Action where
  pure := Action.pure
  bind := Action.bind

/-- Raises an error on a line. -/
def raise {α : Type} (line : Nat) (e : Thrown) : Action α := fun m => .raised e line m

/-- Gives up. -/
def exhaust {α : Type} : Action α := fun m => .exhausted m

/-- An operation that may fail, as an action on a line. -/
def attempt {α : Type} (line : Nat) : Attempt α → Action α
  | .ok a => pure a
  | .error e => raise line e

/-- The state. -/
def state : Action Machine := fun m => .done m m

/-- The cells. -/
def heap : Action Heap := fun m => .done m.heap m

/-- Puts other cells in place of the present ones. -/
def setHeap (heap : Heap) : Action Unit := fun m => .done () { m with heap }

/-- An operation on cells that may fail. -/
def onHeap {α : Type} (line : Nat) (f : Heap → Attempt (α × Heap)) : Action α := fun m =>
  match f m.heap with
  | .ok (a, heap) => .done a { m with heap }
  | .error e => .raised e line m

/-- A new cell. -/
def alloc (cell : Cell) : Action Nat := fun m =>
  let (ref, heap) := m.heap.alloc cell
  .done ref { m with heap }

/-- Another cell in the place of one. -/
def store (ref : Nat) (cell : Cell) : Action Unit := fun m =>
  .done () { m with heap := m.heap.setIfInBounds ref cell }

/-- Writes a text to the output. -/
def write (outlet : Outlet) (line : Nat) (t : Text) : Action Value := fun m =>
  match outlet.refuse? m.written.length t with
  | some e => .raised e line m
  | none =>
    .done (if outlet.givesLength then .int t.length else .none)
      { m with written := t :: m.written }

/-- Writes a value, which has to be a text. -/
def writeValue (outlet : Outlet) (line : Nat) (v : Value) : Action Value := fun m =>
  match v with
  | .text t => write outlet line t m
  | v => .raised (.notText (m.heap.typeName v)) line m

/-- Logs records. -/
def logAll (records : List LogRecord) : Action Unit := fun m =>
  .done () { m with log := records.reverse ++ m.log }

end Action

/-! ## Variables -/

/-- Binds a name, in place of what it was bound to before. -/
def bindName (name : Text) (v : Value) (names : List (Text × Value)) : List (Text × Value) :=
  (name, v) :: names.filter (·.1 != name)

/-- Takes a name away. -/
def unbindName (name : Text) (names : List (Text × Value)) : List (Text × Value) :=
  names.filter (·.1 != name)

theorem lookup_bindName_self (name : Text) (v : Value) (names : List (Text × Value)) :
    (bindName name v names).lookup name = some v := by
  simp [bindName]

end Stencil
