import Stencil.Proofs.Lockstep.Renumber
import Stencil.Proofs.Script.Layout

/-!
# Interpreting segments directly

What the segments of a template do when they are gone through one after the other, without a script:
a literal writes its text, an interpolation writes the escaped value of its variable, and a block of
code is run at the top level. The statements that a script has for a segment do the same, on other
lines, as long as they find the helpers through which they write.

* `agree_runPart_interpret`: a segment and its statements.
* `lookup_interpret_of_not_mem`: what interpreting a segment leaves alone.
-/

namespace Stencil

open Code (Expr Stmt)

/-! ## Direct interpretation -/

/-- Escapes a value in a style, or in the default style. -/
def escapeIn (s : Setting) (style : Option Text) (v : Value) : Action Value := do
  Action.logAll (s.escapes.resolveLog style)
  (s.escapes.resolve style).apply (currentText (callTop s) 0) (Action.raise 0) v

/-- What a segment does by itself. Literal text is written, unless there is none; the lines of
errors mean nothing here. -/
def Segment.interpret (s : Setting) (seg : Segment) : Action Unit :=
  match seg.body with
  | .literal [] => pure ()
  | .literal t => do
    let _ ← Action.write s.outlet 0 t
    return ()
  | .interpolation name style => do
    let v ← Action.attempt 0 (Scope.top.lookup (← Action.state) name)
    let escaped ← escapeIn s style v
    let _ ← Action.writeValue s.outlet 0 escaped
    return ()
  | .code _ => do
    let _ ← runScript s seg.code
    return ()
  | .directive _ => pure ()

/-- Runs the statements that a script has for a segment. -/
def runPart (s : Setting) (part : List Stmt) : Action Unit := do
  let _ ← runScript s part
  return ()

theorem runPart_raised_iff {s : Setting} {part : List Stmt} {m m' : Machine} {e : Thrown}
    {line : Nat} :
    runPart s part m = .raised e line m' ↔ runScript s part m = .raised e line m' := by
  refine ⟨fun h => ?_, Action.bind_of_raised⟩
  rcases Action.raised_of_bind h with hrun | ⟨flow, m₁, -, hpure⟩
  · exact hrun
  · cases hpure

/-! ## Agreement up to lines -/

/-- Two states that differ at most in the lines of functions. -/
def Machine.Agree (m m' : Machine) : Prop := m.mapLines (fun _ => 0) = m'.mapLines fun _ => 0

/-- Two outcomes that differ at most in lines: both are done with the same answer, or were stopped
by the same error, or went on for too long. -/
inductive Outcome.Agree {α : Type} : Outcome α → Outcome α → Prop where
  | done {m m' : Machine} (a : α) (h : m.Agree m') : Agree (.done a m) (.done a m')
  | raised {m m' : Machine} (e : Thrown) (line line' : Nat) (h : m.Agree m') :
      Agree (.raised e line m) (.raised e line' m')
  | exhausted {m m' : Machine} (h : m.Agree m') : Agree (.exhausted m) (.exhausted m')

theorem Machine.Agree.globals_eq {m m' : Machine} (h : m.Agree m') : m.globals = m'.globals := by
  simpa using congrArg Machine.globals h

theorem Machine.Agree.written_eq {m m' : Machine} (h : m.Agree m') : m.written = m'.written := by
  simpa [Machine.mapLines] using congrArg Machine.written h

theorem Outcome.Agree.machine {α : Type} {o o' : Outcome α} (h : o.Agree o') :
    o.machine.Agree o'.machine := by
  cases h with
  | done a h => exact h
  | raised e line line' h => exact h
  | exhausted h => exact h

theorem Outcome.agree_of_mapLines_eq {α : Type} {o o' : Outcome α}
    (h : (o.mapLines fun _ => 0) = o'.mapLines fun _ => 0) : o.Agree o' := by
  cases o with
  | done a m =>
    cases o' with
    | done a' m' =>
      obtain ⟨rfl, hm⟩ := Outcome.done.inj h
      exact .done a hm
    | raised e line m' => cases h
    | exhausted m' => cases h
  | raised e line m =>
    cases o' with
    | done a' m' => cases h
    | raised e' line' m' =>
      obtain ⟨rfl, -, hm⟩ := Outcome.raised.inj h
      exact .raised e line line' hm
    | exhausted m' => cases h
  | exhausted m =>
    cases o' with
    | done a' m' => cases h
    | raised e line m' => cases h
    | exhausted m' => exact .exhausted (Outcome.exhausted.inj h)

/-- Not looking at what an action gives keeps the agreement. -/
theorem Outcome.Agree.andReturn {α : Type} {x y : Action α} {m m' : Machine}
    (h : (x m).Agree (y m')) :
    Outcome.Agree ((x >>= fun _ => pure ()) m) ((y >>= fun _ => pure ()) m') := by
  rw [Action.bind_def, Action.bind_def, Action.bind, Action.bind]
  generalize x m = o, y m' = o' at h
  cases h with
  | done a h => exact .done () h
  | raised e line line' h => exact .raised e line line' h
  | exhausted h => exact .exhausted h

/-- The comparison of a run with its form without lines. -/
abbrev Lockstep.erase : Lockstep fun _ => 0 := .renumber (fun _ => 0) fun _ => True

/-- Actions that have one form without lines agree. -/
theorem agree_of_same {α : Type} {x y z : Action α} (hx : Lockstep.erase.Same x z)
    (hy : Lockstep.erase.Same y z) {m m' : Machine} (h : m.Agree m') : (x m).Agree (y m') := by
  have hxz := (Lockstep.eq_mapLines_of_match (hx (m := m) ⟨rfl, trivial⟩)).1
  have hyz := (Lockstep.eq_mapLines_of_match (hy (m := m') ⟨rfl, trivial⟩)).1
  exact Outcome.agree_of_mapLines_eq (hxz.symm.trans ((congrArg z h).trans hyz))

/-! ## The statements of a segment -/

variable {s : Setting} {m : Machine}

theorem evaluate_helper {call : Caller} {name : Text} {b : Builtin} (line : Nat)
    (hname : name ≠ Code.reservedName) (h : m.globals.lookup name = some (.builtin b)) :
    evaluate s call .top (.name line name) m = .done (.builtin b) m := by
  have hlookup : Scope.top.lookup m name = .ok (.builtin b) := by
    rw [Scope.lookup, if_neg hname]
    show m.global name = .ok (.builtin b)
    rw [Machine.global, h]
    rfl
  show Action.attempt line (Scope.top.lookup m name) m = _
  rw [hlookup]
  rfl

/-- Calling a helper that is in its place. -/
theorem evaluate_helperCall {name : Text} {b : Builtin} (line : Nat) (args : List Expr)
    (hname : name ≠ Code.reservedName) (h : m.globals.lookup name = some (.builtin b)) :
    evaluate s (callTop s) .top (.call line (.name line name) args [] []) m =
      (inOrder (evaluateEach s (callTop s) .top args) >>= fun vs =>
        applyBuiltin s (callTop s) line b vs []) m := by
  rw [evaluate, Action.bind_of_done (evaluate_helper line hname h)]
  simp only [evaluateEach, inOrder, pure_bind]
  rfl

theorem applyBuiltin_write (call : Caller) (line : Nat) (v : Value) :
    applyBuiltin s call line .write [v] [] = Action.writeValue s.outlet line v := by
  unfold applyBuiltin
  exact Action.heap_bind_const _

theorem applyBuiltin_escape (call : Caller) (line : Nat) (name v : Value) :
    applyBuiltin s call line .escape [name, v] [] = escapeValue s call line name v := by
  have hargs : [name, v] ++ ["name", "value"].filterMap
      (fun k => ([] : List (Text × Value)).lookup k.toList) = [name, v] := by
    simp only [List.lookup_nil, List.filterMap_none, List.append_nil]
  unfold applyBuiltin
  simp only [hargs]
  exact Action.heap_bind_const _

/-- Writing the value of an expression, with the helper in place. -/
theorem runScript_writeStmt (h : m.globals.lookup "_write".toList = some (.builtin .write))
    (line : Nat) (e : Expr) :
    runScript s [writeStmt line e] m =
      (evaluate s (callTop s) .top e >>= fun v =>
        Action.writeValue s.outlet line v >>= fun _ => pure Flow.next) m := by
  have hcall : evaluate s (callTop s) .top (.call line (.name line "_write".toList) [e] [] []) m =
      (evaluate s (callTop s) .top e >>= Action.writeValue s.outlet line) m := by
    rw [evaluate_helperCall line [e] (by decide) h]
    simp only [evaluateEach, inOrder, bind_assoc, pure_bind, applyBuiltin_write]
  have hrun : runScript s [writeStmt line e] =
      evaluate s (callTop s) .top (.call line (.name line "_write".toList) [e] [] []) >>=
        fun _ => pure Flow.next := by
    simp only [runScript, writeStmt, executeAll, execute, bind_assoc, pure_bind]
  rw [hrun, Action.bind_eq_of_eq hcall, bind_assoc]

theorem runScript_literalStmt (h : m.globals.lookup "_write".toList = some (.builtin .write))
    (line : Nat) (t : Text) :
    runScript s [literalStmt line t] m =
      (Action.write s.outlet line t >>= fun _ => pure Flow.next) m :=
  runScript_writeStmt h line (.constant line (.text t))

/-- The value that names a style, or none. -/
def styleValue : Option Text → Value
  | none => .none
  | some t => .text t

/-- Escaping the value of a variable, with the helper in place. -/
theorem evaluate_escapeCall (h : m.globals.lookup "_escape".toList = some (.builtin .escape))
    (line : Nat) (name : Text) {c : Code.Constant} {w : Value}
    (hc : evaluate s (callTop s) .top (.constant line c) = pure w) :
    evaluate s (callTop s) .top
        (.call line (.name line "_escape".toList) [.constant line c, .name line name] [] []) m =
      (evaluate s (callTop s) .top (.name line name) >>= escapeValue s (callTop s) line w) m := by
  rw [evaluate_helperCall line _ (by decide) h]
  simp only [evaluateEach, inOrder, bind_assoc, pure_bind, hc, applyBuiltin_escape]

theorem runScript_interpolationStmt
    (hwrite : m.globals.lookup "_write".toList = some (.builtin .write))
    (hescape : m.globals.lookup "_escape".toList = some (.builtin .escape))
    (line : Nat) (name : Text) (style : Option Text) :
    runScript s [interpolationStmt line name style] m =
      (evaluate s (callTop s) .top (.name line name) >>= fun v =>
        escapeValue s (callTop s) line (styleValue style) v >>= fun w =>
          Action.writeValue s.outlet line w >>= fun _ => pure Flow.next) m := by
  rw [← bind_assoc]
  cases style with
  | none =>
    refine (runScript_writeStmt hwrite line _).trans (Action.bind_eq_of_eq ?_)
    exact evaluate_escapeCall hescape line name (c := .none) (w := .none) rfl
  | some t =>
    refine (runScript_writeStmt hwrite line _).trans (Action.bind_eq_of_eq ?_)
    exact evaluate_escapeCall hescape line name (c := .text t) (w := .text t) rfl

/-! ## Segments and their statements -/

/-- The segment finds the helpers that its statements write through. -/
def Segment.FindsHelpers (seg : Segment) (m : Machine) : Prop :=
  match seg.body with
  | .literal [] => True
  | .literal _ => m.globals.lookup "_write".toList = some (.builtin .write)
  | .interpolation _ _ =>
    m.globals.lookup "_write".toList = some (.builtin .write) ∧
      m.globals.lookup "_escape".toList = some (.builtin .escape)
  | _ => True

theorem evaluate_name (line : Nat) (name : Text) :
    evaluate s (callTop s) .top (.name line name) =
      Action.state >>= fun m => Action.attempt line (Scope.top.lookup m name) := by
  rw [evaluate]

theorem escapeValue_styleValue (style : Option Text) (v : Value) :
    escapeValue s (callTop s) 0 (styleValue style) v = escapeIn s style v := by
  cases style with
  | none => rfl
  | some t => exact Action.heap_bind_const _

theorem agree_runScript_mapLinesAll (s : Setting) (f : Nat → Nat) (body : List Stmt)
    {m m' : Machine} (h : m.Agree m') :
    Outcome.Agree (runScript s (Stmt.mapLinesAll f body) m) (runScript s body m') := by
  apply Outcome.agree_of_mapLines_eq
  rw [← runScript_mapLines, ← runScript_mapLines, Stmt.mapLinesAll_mapLinesAll, h]
  rfl

theorem same_interpolation {f : Nat → Nat} {L : Lockstep f} (s : Setting) (line : Nat)
    (name : Text) (style : Option Text) :
    L.Same
      (evaluate s (callTop s) .top (.name line name) >>= fun v =>
        escapeValue s (callTop s) line (styleValue style) v >>= Action.writeValue s.outlet line)
      (evaluate s (callTop s) .top (.name (f line) name) >>= fun v =>
        escapeValue s (callTop s) (f line) (styleValue style) v >>=
          Action.writeValue s.outlet (f line)) := by
  have hcall := Lockstep.same_callFunction (L := L) s callDepth
  refine (Lockstep.same_evaluate s hcall .top (.name line name)).bind fun v => ?_
  refine (Lockstep.same_escapeValue s hcall line _ v).bind fun w => ?_
  exact Lockstep.same_writeValue s.outlet line w

/-- **A segment and its statements agree**, if the statements find the helpers. -/
theorem agree_runPart_interpret (s : Setting) {seg : Segment} (first : Nat) {m m' : Machine}
    (h : m.Agree m') (hfinds : seg.FindsHelpers m') :
    Outcome.Agree (runPart s (seg.statements first) m) (seg.interpret s m') := by
  have hglobals := h.globals_eq
  rw [Segment.statements, Segment.interpret]
  rw [Segment.FindsHelpers] at hfinds
  cases hbody : seg.body with
  | literal t =>
    rw [hbody] at hfinds
    cases t with
    | nil => exact .done () h
    | cons c t =>
      dsimp only at hfinds ⊢
      rw [← hglobals] at hfinds
      rw [runPart, Action.bind_eq_of_eq (runScript_literalStmt hfinds first _), bind_assoc]
      simp only [pure_bind]
      exact (agree_of_same (Lockstep.same_write s.outlet first _)
        (Lockstep.same_write s.outlet 0 _) h).andReturn
  | interpolation name style =>
    rw [hbody] at hfinds
    dsimp only at hfinds ⊢
    rw [← hglobals] at hfinds
    rw [runPart, Action.bind_eq_of_eq (runScript_interpolationStmt hfinds.1 hfinds.2 first name
      style)]
    have hagree := (agree_of_same (same_interpolation s first name style)
      (same_interpolation s 0 name style) h).andReturn
    simpa only [evaluate_name, bind_assoc, pure_bind, escapeValue_styleValue] using hagree
  | code t => exact (agree_runScript_mapLinesAll s _ seg.code h).andReturn
  | directive path => exact .done () h

/-! ## Variables that are left alone -/

/-- A segment leaves alone the variables that its code does not bind. -/
theorem lookup_interpret_of_not_mem (s : Setting) {seg : Segment} {name : Text}
    (h : name ∉ Stmt.boundAll seg.code) (m : Machine) :
    (seg.interpret s m).machine.globals.lookup name = m.globals.lookup name := by
  rw [Segment.interpret]
  cases seg.body with
  | literal t =>
    cases t with
    | nil => rfl
    | cons c t =>
      exact Lockstep.lookup_eq_of_same (fun L => (Lockstep.same_write s.outlet 0 _).andReturn ())
        name m
  | interpolation x style =>
    have hsame (L : Lockstep fun _ => 0) := (same_interpolation (L := L) s 0 x style).andReturn ()
    simp only [evaluate_name, bind_assoc, escapeValue_styleValue] at hsame
    exact Lockstep.lookup_eq_of_same hsame name m
  | code t =>
    have hrun := lookup_runScript_of_not_mem s h m
    rw [← hrun]
    show (((runScript s seg.code >>= fun _ => pure ()) m).machine.globals.lookup name) = _
    rw [Action.bind_def, Action.bind]
    cases runScript s seg.code m <;> rfl
  | directive path => rfl

end Stencil
