import Stencil.Proofs.Lockstep.Evaluate

/-!
# Renumbered runs

A run of renumbered code on a renumbered state is the renumbered run: the same values, the same
errors, the same output and the same variables, on the lines that the renumbering makes of the
lines of the first run. Nothing in the evaluator looks at a line.

The same comparison shows what a run leaves alone: a variable of the top level that no statement
binds keeps its value.
-/

namespace Stencil

open Code (Stmt)

/-- The state with the lines of all functions renumbered. -/
def Machine.mapLines (f : Nat → Nat) (m : Machine) : Machine :=
  { m with heap := m.heap.mapLines f }

@[simp] theorem Machine.globals_mapLines (f : Nat → Nat) (m : Machine) :
    (m.mapLines f).globals = m.globals := rfl

@[simp] theorem Machine.output_mapLines (f : Nat → Nat) (m : Machine) :
    (m.mapLines f).output = m.output := rfl

/-- The outcome with all its lines renumbered. -/
def Outcome.mapLines {α : Type} (f : Nat → Nat) : Outcome α → Outcome α
  | .done a m => .done a (m.mapLines f)
  | .raised e line m => .raised e (f line) (m.mapLines f)
  | .exhausted m => .exhausted (m.mapLines f)

namespace Lockstep

/-- A state goes with its renumbered form, as long as the variables of the top level have a
property. -/
def renumber (f : Nat → Nat) (P : List (Text × Value) → Prop) : Lockstep f where
  rel m m' := m' = m.mapLines f ∧ P m.globals
  heap_eq := by
    rintro m m' ⟨rfl, -⟩
    rfl
  lookup_eq := by
    rintro m m' ⟨rfl, -⟩ name
    rfl
  length_eq := by
    rintro m m' ⟨rfl, -⟩
    rfl
  withHeap := by
    rintro m m' ⟨rfl, hP⟩ heap
    exact ⟨rfl, hP⟩
  withLog := by
    rintro m m' ⟨rfl, hP⟩ records
    exact ⟨rfl, hP⟩
  withText := by
    rintro m m' ⟨rfl, hP⟩ t
    exact ⟨rfl, hP⟩

variable {f : Nat → Nat} {P : List (Text × Value) → Prop} {α : Type}

theorem eq_mapLines_of_match {o o' : Outcome α}
    (h : o.Match (renumber f P).rel f (fun a => a) o') :
    o' = o.mapLines f ∧ P o.machine.globals := by
  cases h with
  | done a h => exact ⟨congrArg (Outcome.done a) h.1, h.2⟩
  | raised e line h => exact ⟨congrArg (Outcome.raised e (f line)) h.1, h.2⟩
  | exhausted h => exact ⟨congrArg Outcome.exhausted h.1, h.2⟩

/-- Binding a name at the top level keeps a property of the variables that does not depend on the
name. -/
theorem renumber_binds {name : Text} (hbind : ∀ v names, P names → P (bindName name v names))
    (hunbind : ∀ names, P names → P (unbindName name names)) :
    (renumber f P).Binds .top name := by
  constructor
  · rintro v m m' ⟨rfl, hP⟩
    exact .done () (And.intro rfl (hbind v _ hP))
  · rintro line m m' ⟨rfl, hP⟩
    by_cases hbound : (m.globals.lookup name).isSome = true
    · simp only [Scope.unbind, Scope.top, Machine.globals_mapLines, hbound, if_true]
      exact .done () (And.intro rfl (hunbind _ hP))
    · simp only [Scope.unbind, Scope.top, Machine.globals_mapLines, hbound]
      exact .raised _ line (And.intro rfl hP)

/-- What goes in lockstep whatever is compared leaves the variables of the top level alone. -/
theorem lookup_eq_of_same {x y : Action α} (h : ∀ L : Lockstep fun _ => 0, L.Same x y) (name : Text)
    (m : Machine) : (x m).machine.globals.lookup name = m.globals.lookup name :=
  (eq_mapLines_of_match (h (renumber (fun _ => 0) fun names =>
    names.lookup name = m.globals.lookup name) (m := m) ⟨rfl, rfl⟩)).2

end Lockstep

/-- **Running commutes with renumbering.** -/
theorem runScript_mapLines (s : Setting) (f : Nat → Nat) (body : List Stmt) (m : Machine) :
    runScript s (Stmt.mapLinesAll f body) (m.mapLines f) = (runScript s body m).mapLines f := by
  have hbinds (name : Text) : (Lockstep.renumber f fun _ => True).Binds .top name :=
    Lockstep.renumber_binds (fun _ _ _ => trivial) fun _ _ => trivial
  have hsame := Lockstep.same_runScript s fun name (_ : name ∈ Stmt.boundAll body) => hbinds name
  exact (Lockstep.eq_mapLines_of_match (hsame ⟨rfl, trivial⟩)).1

/-! ## Variables that are left alone -/

theorem lookup_unbindName_of_ne {name other : Text} (h : other ≠ name)
    (names : List (Text × Value)) : (unbindName name names).lookup other = names.lookup other := by
  induction names with
  | nil => rfl
  | cons entry rest ih =>
    rw [unbindName] at ih ⊢
    by_cases hentry : entry.1 = name
    · have hne : (other == entry.1) = false := by simpa [hentry] using h
      rw [List.filter_cons_of_neg (by simpa using hentry), ih, List.lookup_cons, hne]
    · rw [List.filter_cons_of_pos (by simpa using hentry), List.lookup_cons, List.lookup_cons, ih]

theorem lookup_bindName_of_ne {name other : Text} (h : other ≠ name) (v : Value)
    (names : List (Text × Value)) : (bindName name v names).lookup other = names.lookup other := by
  have hne : (other == name) = false := by simpa using h
  rw [bindName, List.lookup_cons, hne]
  exact lookup_unbindName_of_ne h names

/-- Statements leave alone the variables that they do not bind. -/
theorem lookup_runScript_of_not_mem (s : Setting) {body : List Stmt} {name : Text}
    (h : name ∉ Stmt.boundAll body) (m : Machine) :
    (runScript s body m).machine.globals.lookup name = m.globals.lookup name := by
  let P (names : List (Text × Value)) : Prop := names.lookup name = m.globals.lookup name
  have hbinds (other : Text) (hmem : other ∈ Stmt.boundAll body) :
      (Lockstep.renumber (fun _ => 0) P).Binds .top other := by
    have hne : name ≠ other := fun heq => h (heq ▸ hmem)
    refine Lockstep.renumber_binds (fun v names hP => ?_) fun names hP => ?_
    · exact (lookup_bindName_of_ne hne v names).trans hP
    · exact (lookup_unbindName_of_ne hne names).trans hP
  have hsame := Lockstep.same_runScript s hbinds
  have hstart : (Lockstep.renumber (fun _ => 0) P).rel m (m.mapLines fun _ => 0) := ⟨rfl, rfl⟩
  exact (Lockstep.eq_mapLines_of_match (hsame hstart)).2

end Stencil
