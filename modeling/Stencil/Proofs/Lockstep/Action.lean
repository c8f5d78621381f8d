import Mathlib.Data.List.Forall2
import Stencil.Proofs.Lockstep.Heap

/-!
# Runs in lockstep

Two runs of the same code go in *lockstep* when no step of the code can tell their states apart. The
lines of the code may be numbered differently in the two runs: where an error of the first is on a
line, that of the second is on the line that a renumbering makes of it.

A `Lockstep` says which states go together and that what code does to a state keeps them together.
An action of the first run and an action of the second then are `Same` when they lead from states
that go together to outcomes that do. The rules of this file build such pairs from smaller ones.
-/

namespace Stencil

/-- Two outcomes that go together: the states by `rel`, the lines by `f`, what is given by `r`. -/
inductive Outcome.Match {α β : Type} (rel : Machine → Machine → Prop) (f : Nat → Nat) (r : α → β) :
    Outcome α → Outcome β → Prop where
  | done {m m' : Machine} (a : α) (h : rel m m') : Match rel f r (.done a m) (.done (r a) m')
  | raised {m m' : Machine} (e : Thrown) (line : Nat) (h : rel m m') :
      Match rel f r (.raised e line m) (.raised e (f line) m')
  | exhausted {m m' : Machine} (h : rel m m') : Match rel f r (.exhausted m) (.exhausted m')

/-- Which states of two runs go together when the lines of the second are renumbered by `f`. Code
finds the same cells and variables in them, and what it may do to the cells, the log and the output
keeps them together. What it does to the variables of the top level is left open. -/
structure Lockstep (f : Nat → Nat) where
  rel : Machine → Machine → Prop
  heap_eq {m m' : Machine} : rel m m' → m'.heap = m.heap.mapLines f
  lookup_eq {m m' : Machine} : rel m m' → ∀ name, m'.globals.lookup name = m.globals.lookup name
  length_eq {m m' : Machine} : rel m m' → m'.written.length = m.written.length
  withHeap {m m' : Machine} : rel m m' → ∀ heap : Heap,
    rel { m with heap := heap } { m' with heap := heap.mapLines f }
  withLog {m m' : Machine} : rel m m' → ∀ records : List LogRecord,
    rel { m with log := records ++ m.log } { m' with log := records ++ m'.log }
  withText {m m' : Machine} : rel m m' → ∀ t : Text,
    rel { m with written := t :: m.written } { m' with written := t :: m'.written }

namespace Action

theorem bind_def {α β : Type} (x : Action α) (k : α → Action β) : x >>= k = Action.bind x k := rfl

theorem bind_of_done {α β : Type} {x : Action α} {k : α → Action β} {m m₁ : Machine} {a : α}
    (h : x m = .done a m₁) : (x >>= k) m = k a m₁ := by
  rw [bind_def, Action.bind, h]

theorem bind_of_raised {α β : Type} {x : Action α} {k : α → Action β} {m m' : Machine} {e : Thrown}
    {line : Nat} (h : x m = .raised e line m') : (x >>= k) m = .raised e line m' := by
  rw [bind_def, Action.bind, h]

/-- Two steps raise an error in one of them. -/
theorem raised_of_bind {α β : Type} {x : Action α} {k : α → Action β} {m m' : Machine} {e : Thrown}
    {line : Nat} (h : (x >>= k) m = .raised e line m') :
    x m = .raised e line m' ∨ ∃ a m₁, x m = .done a m₁ ∧ k a m₁ = .raised e line m' := by
  rw [bind_def, Action.bind] at h
  cases hx : x m with
  | done a m₁ => exact .inr ⟨a, m₁, rfl, by simpa only [hx] using h⟩
  | raised e' line' m₁ =>
    simp only [hx, Outcome.raised.injEq] at h
    obtain ⟨rfl, rfl, rfl⟩ := h
    exact .inl rfl
  | exhausted m₁ => simp [hx] at h

theorem bind_eq_of_eq {α β : Type} {x y : Action α} {k : α → Action β} {m : Machine}
    (h : x m = y m) : (x >>= k) m = (y >>= k) m := by
  rw [bind_def, bind_def, Action.bind, Action.bind, h]

theorem heap_bind_const {α : Type} (x : Action α) : (Action.heap >>= fun _ => x) = x := rfl

instance : LawfulMonad Action := by
  refine LawfulMonad.mk' Action ?_ (fun _ _ => rfl) ?_
  · intro α x
    funext m
    show Action.bind x (fun a => Action.pure a) m = x m
    unfold Action.bind
    cases x m <;> rfl
  · intro α β γ x g k
    funext m
    show Action.bind (Action.bind x g) k m = Action.bind x (fun a => Action.bind (g a) k) m
    unfold Action.bind
    cases x m <;> rfl

end Action

namespace Lockstep

variable {f : Nat → Nat} (L : Lockstep f) {α β γ : Type}

/-- The second action does in its run what the first does in its own; what it gives is what `r`
makes of what the first gives. -/
def Maps (r : α → β) (x : Action α) (y : Action β) : Prop :=
  ∀ ⦃m m' : Machine⦄, L.rel m m' → (x m).Match L.rel f r (y m')

/-- Both actions do the same in their runs. -/
def Same (x y : Action α) : Prop := L.Maps (fun a => a) x y

variable {L}

/-! ## One after the other -/

theorem same_pure (a : α) : L.Same (pure a) (pure a) := fun _ _ h => .done a h

theorem Maps.bind {r : α → β} {x : Action α} {y : Action β} {k : α → Action γ}
    {k' : β → Action γ} (hx : L.Maps r x y) (hk : ∀ a, L.Same (k a) (k' (r a))) :
    L.Same (x >>= k) (y >>= k') := by
  intro m m' hm
  have hout := hx hm
  rw [Action.bind_def, Action.bind_def, Action.bind, Action.bind]
  generalize x m = o, y m' = o' at hout
  cases hout with
  | done a h => exact hk a h
  | raised e line h => exact .raised e line h
  | exhausted h => exact .exhausted h

theorem Same.bind {x y : Action α} {k k' : α → Action β} (hx : L.Same x y)
    (hk : ∀ a, L.Same (k a) (k' a)) : L.Same (x >>= k) (y >>= k') :=
  Maps.bind hx hk

/-- An action whose answer is not used. -/
theorem Same.andReturn {x y : Action α} (hx : L.Same x y) (b : β) :
    L.Same (x >>= fun _ => pure b) (y >>= fun _ => pure b) :=
  hx.bind fun _ => same_pure b

theorem Same.ite {c : Prop} [Decidable c] {x y x' y' : Action α} (h : L.Same x y)
    (h' : L.Same x' y') : L.Same (if c then x else x') (if c then y else y') := by
  split
  · exact h
  · exact h'

/-! ## Errors -/

theorem same_raise (line : Nat) (e : Thrown) :
    L.Same (Action.raise line e : Action α) (Action.raise (f line) e) :=
  fun _ _ h => .raised e line h

theorem same_exhaust : L.Same (Action.exhaust : Action α) Action.exhaust :=
  fun _ _ h => .exhausted h

theorem maps_attempt (r : α → β) (line : Nat) (x : Attempt α) :
    L.Maps r (Action.attempt line x) (Action.attempt (f line) (r <$> x)) := by
  intro m m' hm
  cases x with
  | ok a => exact .done a hm
  | error e => exact .raised e line hm

theorem same_attempt (line : Nat) (x : Attempt α) :
    L.Same (Action.attempt line x) (Action.attempt (f line) x) := by
  have h := maps_attempt (L := L) (fun a => a) line x
  rwa [id_map' x] at h

/-! ## Cells -/

theorem maps_heap : L.Maps (Heap.mapLines f) Action.heap Action.heap := by
  intro m m' hm
  show (Outcome.done m.heap m).Match L.rel f _ (.done m'.heap m')
  rw [L.heap_eq hm]
  exact .done m.heap hm

/-- A step that begins with a look at the cells. -/
theorem same_heap_bind {k k' : Heap → Action α}
    (hk : ∀ heap, L.Same (k heap) (k' (heap.mapLines f))) :
    L.Same (Action.heap >>= k) (Action.heap >>= k') :=
  maps_heap.bind hk

theorem same_setHeap (heap : Heap) :
    L.Same (Action.setHeap heap) (Action.setHeap (heap.mapLines f)) :=
  fun _ _ h => .done () (L.withHeap h heap)

theorem same_onHeap (line : Nat) {g : Heap → Attempt (α × Heap)}
    (hg : ∀ heap, g (Heap.mapLines f heap) = Heap.mapLinesSnd f <$> g heap) :
    L.Same (Action.onHeap line g) (Action.onHeap (f line) g) := by
  intro m m' hm
  rw [Action.onHeap, Action.onHeap, L.heap_eq hm, hg]
  cases g m.heap with
  | error e => exact .raised e line hm
  | ok p => exact .done p.1 (L.withHeap hm p.2)

theorem same_alloc (cell : Cell) :
    L.Same (Action.alloc cell) (Action.alloc (cell.mapLines f)) := by
  intro m m' hm
  rw [Action.alloc, Action.alloc, L.heap_eq hm, Heap.alloc_mapLines]
  exact .done _ (L.withHeap hm _)

theorem same_store (ref : Nat) (cell : Cell) :
    L.Same (Action.store ref cell) (Action.store ref (cell.mapLines f)) := by
  intro m m' hm
  rw [Action.store, Action.store, L.heap_eq hm, Heap.setIfInBounds_mapLines]
  exact .done () (L.withHeap hm _)

/-! ## Output and log -/

theorem same_write (outlet : Outlet) (line : Nat) (t : Text) :
    L.Same (Action.write outlet line t) (Action.write outlet (f line) t) := by
  intro m m' hm
  rw [Action.write, Action.write, L.length_eq hm]
  cases outlet.refuse? m.written.length t with
  | some e => exact .raised e line hm
  | none => exact .done _ (L.withText hm t)

theorem same_writeValue (outlet : Outlet) (line : Nat) (v : Value) :
    L.Same (Action.writeValue outlet line v) (Action.writeValue outlet (f line) v) := by
  intro m m' hm
  cases v with
  | text t => exact same_write outlet line t hm
  | _ =>
    simp only [Action.writeValue, L.heap_eq hm, Heap.typeName_mapLines]
    exact .raised _ line hm

theorem same_logAll (records : List LogRecord) :
    L.Same (Action.logAll records) (Action.logAll records) :=
  fun _ _ h => .done () (L.withLog h _)

/-! ## Lists of actions -/

theorem same_mapM {g g' : α → Action β} (hg : ∀ a, L.Same (g a) (g' a)) (as : List α) :
    L.Same (as.mapM g) (as.mapM g') := by
  induction as with
  | nil => exact same_pure []
  | cons a as ih =>
    rw [List.mapM_cons, List.mapM_cons]
    exact (hg a).bind fun b => ih.bind fun bs => same_pure (b :: bs)

theorem same_forM {g g' : α → Action Unit} {as : List α} (hg : ∀ a ∈ as, L.Same (g a) (g' a)) :
    L.Same (as.forM g) (as.forM g') := by
  induction as with
  | nil => exact same_pure ()
  | cons a as ih =>
    refine (hg a List.mem_cons_self).bind fun _ => ih fun b hb => ?_
    exact hg b (List.mem_cons_of_mem a hb)

theorem same_inOrder {xs ys : List (Action α)} (h : List.Forall₂ L.Same xs ys) :
    L.Same (inOrder xs) (inOrder ys) := by
  induction h with
  | nil => exact same_pure []
  | cons hx _ ih => exact hx.bind fun a => ih.bind fun as => same_pure (a :: as)

/-! ## Loops -/

theorem same_forEach (line : Nat) {body body' : Value → Action Flow}
    (hbody : ∀ v, L.Same (body v) (body' v)) (rounds : Nat) (iter : Iter) :
    L.Same (Action.forEach line body rounds iter)
      (Action.forEach (f line) body' rounds iter) := by
  induction rounds generalizing iter with
  | zero => exact same_exhaust
  | succ rounds ih =>
    refine same_heap_bind fun heap => ?_
    rw [Heap.next_mapLines]
    refine (same_attempt line _).bind fun found => ?_
    cases found with
    | none => exact same_pure _
    | some found =>
      refine (hbody found.1).bind fun flow => ?_
      cases flow with
      | next => exact ih found.2
      | «continue» => exact ih found.2
      | leave v => exact same_pure _
      | «break» => exact same_pure _

theorem same_whileTrue {test test' : Action Bool} {body body' : Action Flow}
    (htest : L.Same test test') (hbody : L.Same body body') (rounds : Nat) :
    L.Same (Action.whileTrue test body rounds) (Action.whileTrue test' body' rounds) := by
  induction rounds with
  | zero => exact same_exhaust
  | succ rounds ih =>
    refine htest.bind fun b => Same.ite (hbody.bind fun flow => ?_) (same_pure _)
    cases flow with
    | next => exact ih
    | «continue» => exact ih
    | leave v => exact same_pure _
    | «break» => exact same_pure _

theorem same_afterLoop {orelse orelse' : Action Flow} (h : L.Same orelse orelse') (flow : Flow) :
    L.Same (Action.afterLoop orelse flow) (Action.afterLoop orelse' flow) := by
  cases flow with
  | next => exact h
  | leave v => exact same_pure _
  | «break» => exact same_pure _
  | «continue» => exact same_pure _

end Lockstep

end Stencil
