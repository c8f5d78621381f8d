import Stencil.Proofs.Lockstep.Action

/-!
# How statements end

Code in which nothing is misplaced leaves no loop or function that it is not in: outside functions no
statement returns, and outside loops none breaks off or goes on. The statements of a script
therefore run one after the other to the end, unless an error stops them.

* `gives_execute`: how a statement that is not misplaced ends.
* `executeAll_append`: running statements in two parts.
* `exists_raising_statement`: the statement that an error comes from.
-/

namespace Stencil

open Code (Expr Stmt)

/-- What an action gives has a property, whenever it gives anything. -/
def Action.Gives {α : Type} (P : α → Prop) (x : Action α) : Prop :=
  ∀ m a m', x m = .done a m' → P a

/-- The statement ends where it may outside functions: it does not return, and it breaks off or goes
on only in a loop. -/
def Flow.Allowed (inLoop : Bool) : Flow → Prop
  | .next => True
  | .leave _ => False
  | .break | .continue => inLoop = true

namespace Action

variable {α β : Type} {P : α → Prop} {Q : β → Prop}

theorem exists_of_bind_eq_done {x : Action α} {k : α → Action β} {m m' : Machine} {b : β}
    (h : (x >>= k) m = .done b m') : ∃ a m₁, x m = .done a m₁ ∧ k a m₁ = .done b m' := by
  rw [bind_def, Action.bind] at h
  cases hx : x m with
  | done a m₁ => exact ⟨a, m₁, rfl, by simpa only [hx] using h⟩
  | raised e line m₁ => simp [hx] at h
  | exhausted m₁ => simp [hx] at h

theorem gives_pure {a : α} (h : P a) : Gives P (pure a) := by
  intro m a' m' hdone
  obtain ⟨rfl, rfl⟩ : a = a' ∧ m = m' := by simpa [pure, Pure.pure, Action.pure] using hdone
  exact h

theorem gives_raise (line : Nat) (e : Thrown) : Gives P (raise line e) := by
  intro m a m' hdone
  simp [raise] at hdone

theorem Gives.bind {x : Action α} {k : α → Action β} (hx : Gives P x)
    (hk : ∀ a, P a → Gives Q (k a)) : Gives Q (x >>= k) := by
  intro m b m' hdone
  obtain ⟨a, m₁, hfirst, hsecond⟩ := exists_of_bind_eq_done hdone
  exact hk a (hx m a m₁ hfirst) m₁ b m' hsecond

theorem gives_bind {x : Action α} {k : α → Action β} (hk : ∀ a, Gives Q (k a)) :
    Gives Q (x >>= k) :=
  Gives.bind (P := fun _ => True) (fun _ _ _ _ => trivial) fun a _ => hk a

theorem gives_ite {c : Prop} [Decidable c] {x y : Action α} (hx : Gives P x) (hy : Gives P y) :
    Gives P (if c then x else y) := by
  split
  · exact hx
  · exact hy

theorem gives_exhaust : Gives P exhaust := by
  intro m a m' hdone
  simp [exhaust] at hdone

/-! ## Loops -/

/-- A loop outside functions is gone through to its end, or broken off. -/
def EndsLoop (flow : Flow) : Prop := flow = .next ∨ flow = .break

theorem gives_whileTrue {test : Action Bool} {body : Action Flow}
    (hbody : Gives (Flow.Allowed true) body) (rounds : Nat) :
    Gives EndsLoop (whileTrue test body rounds) := by
  induction rounds with
  | zero => exact gives_exhaust
  | succ rounds ih =>
    refine gives_bind fun b => gives_ite (hbody.bind fun flow hflow => ?_) (gives_pure (.inl rfl))
    cases flow with
    | next => exact ih
    | «continue» => exact ih
    | «break» => exact gives_pure (.inr rfl)
    | leave v => exact hflow.elim

theorem gives_forEach (line : Nat) {body : Value → Action Flow}
    (hbody : ∀ v, Gives (Flow.Allowed true) (body v)) (rounds : Nat) (iter : Iter) :
    Gives EndsLoop (forEach line body rounds iter) := by
  induction rounds generalizing iter with
  | zero => exact gives_exhaust
  | succ rounds ih =>
    refine gives_bind fun heap => gives_bind fun found => ?_
    cases found with
    | none => exact gives_pure (.inl rfl)
    | some found =>
      refine (hbody found.1).bind fun flow hflow => ?_
      cases flow with
      | next => exact ih found.2
      | «continue» => exact ih found.2
      | «break» => exact gives_pure (.inr rfl)
      | leave v => exact hflow.elim

theorem gives_afterLoop {inLoop : Bool} {orelse : Action Flow}
    (horelse : Gives (Flow.Allowed inLoop) orelse) {flow : Flow} (hflow : EndsLoop flow) :
    Gives (Flow.Allowed inLoop) (afterLoop orelse flow) := by
  rcases hflow with rfl | rfl
  · exact horelse
  · exact gives_pure trivial

end Action

/-! ## Statements -/

open Stencil.Action

theorem gives_defineClass {sc : Scope} {line : Nat} {name : Text} {bases : List Value}
    {body : Scope → Action Flow} {inLoop : Bool}
    (hbody : ∀ inner, Gives (Flow.Allowed false) (body inner)) :
    Gives (Flow.Allowed inLoop) (defineClass sc line name bases body) := by
  refine gives_bind fun heap => gives_bind fun parents => gives_bind fun frame => ?_
  refine (hbody _).bind fun flow hflow => gives_bind fun m => gives_bind fun ref => ?_
  refine gives_bind fun _ => ?_
  cases flow with
  | leave v => exact hflow.elim
  | _ => exact gives_pure trivial

mutual

/-- A statement that is not misplaced ends where it may. -/
theorem gives_execute (s : Setting) (call : Caller) (sc : Scope) (inLoop : Bool) :
    (st : Stmt) → st.misuse? false inLoop = none →
      Gives (Flow.Allowed inLoop) (execute s call sc st)
  | .expr _ _, _ => gives_bind fun _ => gives_pure trivial
  | .assign _ _ _, _ => gives_bind fun _ => gives_bind fun _ => gives_pure trivial
  | .augment _ _ _ _, _ => gives_bind fun _ => gives_pure trivial
  | .branch _ test body orelse, h => by
    simp only [Stmt.misuse?, Option.or_eq_none_iff] at h
    exact gives_bind fun b => gives_ite (gives_executeAll s call sc inLoop body h.2.1)
      (gives_executeAll s call sc inLoop orelse h.2.2)
  | .whileLoop _ test body orelse, h => by
    simp only [Stmt.misuse?, Option.or_eq_none_iff] at h
    have hbody := gives_executeAll s call sc true body h.2.1
    have horelse := gives_executeAll s call sc inLoop orelse h.2.2
    exact (gives_whileTrue hbody s.rounds).bind fun flow hflow => gives_afterLoop horelse hflow
  | .forLoop span target iterable body orelse, h => by
    simp only [Stmt.misuse?, Option.or_eq_none_iff] at h
    have hbody := gives_executeAll s call sc true body h.2.1
    have horelse := gives_executeAll s call sc inLoop orelse h.2.2
    refine gives_bind fun v => gives_bind fun heap => gives_bind fun iter => ?_
    refine (gives_forEach span.first (fun v => ?_) s.rounds iter).bind fun flow hflow => ?_
    · exact gives_bind fun _ => hbody
    · exact gives_afterLoop horelse hflow
  | .function _ _ _ _ _, _ => gives_bind fun _ => gives_bind fun _ => gives_pure trivial
  | .classDef _ _ bases body, h => by
    simp only [Stmt.misuse?, Option.or_eq_none_iff] at h
    exact gives_bind fun vs =>
      gives_defineClass fun inner => gives_executeAll s call inner false body h.1.1
  | .ret _ _, h => by simp [Stmt.misuse?] at h
  | .raise span error cause, _ => by
    refine gives_bind fun e => gives_bind fun c => gives_bind fun heap => ?_
    split
    · exact gives_raise _ _
    · refine gives_bind fun e => ?_
      split
      · exact gives_raise _ _
      · exact gives_raise _ _
      · split
        · exact gives_raise _ _
        · exact gives_raise _ _
  | .assert _ _ _, _ =>
    gives_bind fun _ => gives_ite (gives_pure trivial) (gives_bind fun _ => gives_raise _ _)
  | .delete _ _, _ => gives_bind fun _ => gives_pure trivial
  | .pass _, _ => gives_pure trivial
  | .breakLoop _, h => by
    cases inLoop with
    | true => exact gives_pure rfl
    | false => simp [Stmt.misuse?] at h
  | .continueLoop _, h => by
    cases inLoop with
    | true => exact gives_pure rfl
    | false => simp [Stmt.misuse?] at h
  | .importModules _ _, _ => gives_bind fun _ => gives_pure trivial

theorem gives_executeAll (s : Setting) (call : Caller) (sc : Scope) (inLoop : Bool) :
    (ss : List Stmt) → Stmt.misuseIn? false inLoop ss = none →
      Gives (Flow.Allowed inLoop) (executeAll s call sc ss)
  | [], _ => gives_pure trivial
  | st :: ss, h => by
    simp only [Stmt.misuseIn?, Option.or_eq_none_iff] at h
    have hst := gives_execute s call sc inLoop st h.1
    have hss := gives_executeAll s call sc inLoop ss h.2
    refine hst.bind fun flow hflow => ?_
    cases flow with
    | next => exact hss
    | leave v => exact hflow.elim
    | «break» => exact gives_pure hflow
    | «continue» => exact gives_pure hflow

end

/-! ## Scripts -/

/-- Statements at the top level in which nothing is misplaced run to the end. -/
theorem eq_next_of_runScript {s : Setting} {body : List Stmt}
    (h : Stmt.misuseIn? false false body = none) {m m' : Machine} {flow : Flow}
    (hdone : runScript s body m = .done flow m') : flow = .next := by
  have hallowed := gives_executeAll s (callTop s) .top false body h m flow m' hdone
  cases flow with
  | next => rfl
  | leave v => exact hallowed.elim
  | «break» => simp [Flow.Allowed] at hallowed
  | «continue» => simp [Flow.Allowed] at hallowed

theorem executeAll_append (s : Setting) (call : Caller) (sc : Scope) (ss ts : List Stmt) :
    executeAll s call sc (ss ++ ts) = executeAll s call sc ss >>= fun flow =>
      match flow with
      | .next => executeAll s call sc ts
      | flow => return flow := by
  induction ss with
  | nil => rfl
  | cons st ss ih =>
    rw [List.cons_append, executeAll, executeAll, bind_assoc]
    refine bind_congr fun flow => ?_
    cases flow with
    | next => exact ih
    | _ => rfl

/-! ## The statement that raises an error -/

variable {s : Setting} {e : Thrown} {line : Nat} {m m' : Machine}

/-- The statements before the one that raises the error have been gone through, and those behind it
do not count. -/
theorem runScript_of_raising {before : List Stmt} {st : Stmt} {m₀ : Machine}
    (hbefore : runScript s before m = .done .next m₀)
    (hst : execute s (callTop s) .top st m₀ = .raised e line m') (later : List Stmt) :
    runScript s (before ++ st :: later) m = .raised e line m' := by
  rw [runScript] at hbefore ⊢
  rw [executeAll_append, Action.bind_of_done hbefore]
  exact Action.bind_of_raised hst

/-- **An error comes from one of the statements**, behind those that have been gone through. -/
theorem exists_raising_statement {body : List Stmt}
    (h : runScript s body m = .raised e line m') :
    ∃ before st after m₀, body = before ++ st :: after ∧
      runScript s before m = .done .next m₀ ∧
      execute s (callTop s) .top st m₀ = .raised e line m' := by
  induction body generalizing m with
  | nil => cases h
  | cons st body ih =>
    rcases Action.raised_of_bind h with hst | ⟨flow, m₁, hst, hrest⟩
    · exact ⟨[], st, body, m, rfl, rfl, hst⟩
    · cases flow with
      | next =>
        obtain ⟨before, st', after, m₀, rfl, hbefore, hraises⟩ := ih hrest
        refine ⟨st :: before, st', after, m₀, rfl, ?_, hraises⟩
        exact (Action.bind_of_done hst).trans hbefore
      | leave v | «break» | «continue» => cases hrest

end Stencil
