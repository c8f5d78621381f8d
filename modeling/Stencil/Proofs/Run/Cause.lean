import Stencil.Proofs.Run.Place

/-!
# What becomes of an error

An error that stops a run and is meant to be caught is wrapped: the error that goes to the error
sink keeps it as its cause. Before it can go there it is described, and for that the error, and then
its arguments, are asked for a text. There code has a say again. If no text is to be had, the error
that came up instead leaves the run as it is, and nothing goes to the sink.

* `exists_describe_eq_done`: an error that no code is asked for the text of can be described.
* `run_wraps_error_iff`: an error is wrapped exactly if it can be described.
* `not_run_wraps_error_of_failing_text`: an error that is lost because it cannot be described.
-/

namespace Stencil

/-! ## Texts that no code has a say in -/

mutual

/-- Can a value be asked for its text without any code being called, and without an error? That goes
for the arguments of an error, too. -/
def Heap.hasText (heap : Heap) : Value → Bool
  | .object c args _ =>
    (heap.classAttribute? c "__str__".toList).isNone && heap.allHaveText args
  | .foreign _ (.error _) => false
  | _ => true

/-- Can all of these values be asked for their texts? -/
def Heap.allHaveText (heap : Heap) : List Value → Bool
  | [] => true
  | v :: vs => heap.hasText v && heap.allHaveText vs

end

theorem Heap.allHaveText_eq_all (heap : Heap) (vs : List Value) :
    heap.allHaveText vs = vs.all heap.hasText := by
  induction vs with
  | nil => rfl
  | cons v vs ih => rw [Heap.allHaveText, List.all_cons, ih]

theorem Heap.hasText_object_iff (heap : Heap) (c : ClassId) (args : List Value)
    (shown : Option Text) :
    heap.hasText (.object c args shown) = true ↔
      heap.classAttribute? c "__str__".toList = none ∧ ∀ arg ∈ args, heap.hasText arg = true := by
  rw [Heap.hasText, Heap.allHaveText_eq_all, Bool.and_eq_true, Option.isNone_iff_eq_none,
    List.all_eq_true]

theorem Heap.hasText_of_mem_arguments {heap : Heap} {v arg : Value} (h : heap.hasText v = true)
    (hmem : arg ∈ errorArguments v) : heap.hasText arg = true := by
  cases v with
  | object c args shown => exact ((heap.hasText_object_iff c args shown).mp h).2 arg hmem
  | _ => cases hmem

theorem exists_textOf_eq_pure (call : Caller) (line : Nat) (heap : Heap) :
    (v : Value) → heap.hasText v = true → ∃ t, textOf call line heap v = pure t
  | .object c args shown => fun h => by
    obtain ⟨hclass, hargs⟩ := (heap.hasText_object_iff c args shown).mp h
    unfold textOf
    rw [hclass]
    by_cases hkind : heap.isKind c "BaseException" = true
    · simp only [hkind]
      match shown, args with
      | some t, _ => exact ⟨t, rfl⟩
      | none, [] => exact ⟨_, rfl⟩
      | none, [arg] =>
        by_cases hkey : heap.isKind c "KeyError" = true
        · exact ⟨heap.written arg, by simp [hkey]⟩
        · obtain ⟨t, ht⟩ := exists_textOf_eq_pure call line heap arg (hargs arg List.mem_cons_self)
          exact ⟨t, by simp [hkey, ht]⟩
      | none, _ :: _ :: _ => exact ⟨_, rfl⟩
    · exact ⟨opaqueText (heap.className c), by simp [hkind]⟩
  | .foreign _ (.error _) => fun h => by cases h
  | .foreign _ (.ok t) | .text t => fun _ => ⟨t, rfl⟩
  | .none | .ellipsis | .bool _ | .int _ | .float _ | .bytes _ _ | .tuple _ | .list _ | .dict _
  | .range _ _ _ | .slice _ _ _ | .cls _ | .function _ | .bound _ _ | .builtin _ | .method _ _
  | .style _ => fun _ => ⟨_, rfl⟩

variable {m : Machine}

theorem exists_currentText_eq_done (call : Caller) (line : Nat) {v : Value}
    (h : m.heap.hasText v = true) : ∃ t, currentText call line v m = .done t m := by
  obtain ⟨t, ht⟩ := exists_textOf_eq_pure call line m.heap v h
  refine ⟨t, ?_⟩
  show textOf call line m.heap v m = .done t m
  rw [ht]
  rfl

theorem exists_presentTexts_eq_done (call : Caller) {args : List Value}
    (h : ∀ arg ∈ args, m.heap.hasText arg = true) :
    ∃ texts, presentTexts call args m = .done texts m := by
  induction args with
  | nil => exact ⟨[], rfl⟩
  | cons arg args ih =>
    obtain ⟨t, ht⟩ := exists_currentText_eq_done call 0 (h arg List.mem_cons_self)
    obtain ⟨texts, htexts⟩ := ih fun arg' hmem => h arg' (List.mem_cons_of_mem arg hmem)
    rw [presentTexts, Action.bind_of_done ht]
    cases (Text.strip t).isEmpty with
    | true => exact ⟨texts, htexts⟩
    | false =>
      refine ⟨t :: texts, ?_⟩
      show (currentText call 0 arg >>= fun t => presentTexts call args >>= _) m = _
      rw [Action.bind_of_done ht, Action.bind_of_done htexts]
      rfl

/-- **An error that no code is asked for the text of can be described**, which leaves no trace. -/
theorem exists_describe_eq_done (s : Setting) {error : Value} (h : m.heap.hasText error = true) :
    ∃ reason, describe s error m = .done reason m := by
  obtain ⟨t, ht⟩ := exists_currentText_eq_done (callTop s) 0 h
  obtain ⟨texts, htexts⟩ := exists_presentTexts_eq_done (callTop s)
    fun arg hmem => Heap.hasText_of_mem_arguments h hmem
  unfold describe
  rw [Action.bind_of_done ht]
  cases (Text.strip t).isEmpty with
  | false => exact ⟨Text.strip t, rfl⟩
  | true =>
    show ∃ reason, (presentTexts (callTop s) (errorArguments error) >>= _) m = .done reason m
    rw [Action.bind_of_done htexts]
    cases texts with
    | nil => exact ⟨_, rfl⟩
    | cons t texts => exact ⟨_, rfl⟩

/-! ## Sinks -/

/-- The sink does not fail on an error. -/
def ErrorSink.Takes (sink : ErrorSink) (err : ExecutionError) : Prop :=
  match sink with
  | .propagate => True
  | .callback f => f err = none
  | .stream s => s.room ≠ some 0

/-- The error is raised to the caller, or it goes to the caller's function or stream, once, and
there is no answer: whatever the sink is made for. -/
def Report.Delivers (report : Report) (sink : ErrorSink) (colour : Bool) (err : ExecutionError) :
    Prop :=
  match sink with
  | .propagate =>
    report.result = .error (.template (.execution err)) ∧ report.delivered = [] ∧ report.told = []
  | .callback _ => report.result = .ok none ∧ report.delivered = [err] ∧ report.told = []
  | .stream s =>
    report.result = .ok none ∧ report.delivered = [] ∧ report.told = s.errorText colour err

/-- An error that keeps this one as its cause is delivered. -/
def Report.Wraps (report : Report) (sink : ErrorSink) (colour : Bool) (error : Value) : Prop :=
  ∃ err : ExecutionError, err.cause.map Cause.thrown = some (.error error) ∧
    report.Delivers sink colour err

/-- The run has a failure of its own, and nothing goes to the error sink. -/
def Report.FailsWith (report : Report) (failure : Failure) : Prop :=
  report.result = .error failure ∧ report.delivered = [] ∧ report.told = []

theorem Report.Carries.delivers {report : Report} {sink : ErrorSink} {colour : Bool}
    {err : ExecutionError} (h : report.Carries (sink.deliver colour err))
    (htakes : sink.Takes err) : report.Delivers sink colour err := by
  obtain ⟨hdelivered, htold, hresult⟩ := h
  cases sink with
  | propagate => exact ⟨hresult, hdelivered, htold⟩
  | callback f =>
    have hf : f err = none := htakes
    rw [ErrorSink.deliver, hf] at hresult
    exact ⟨hresult, hdelivered, htold⟩
  | stream s =>
    have hroom : s.room.any (· == 0) = false := by
      rw [Option.any_eq_false]
      intro room hsome
      rw [beq_eq_false_iff_ne]
      rintro rfl
      exact htakes hsome
    simp only [ErrorSink.deliver, hroom] at hdelivered htold hresult
    exact ⟨hresult, hdelivered, htold⟩

/-- The failure of a run that delivers an error is that error. -/
theorem Report.Wraps.exists_eq_template {report : Report} {sink : ErrorSink} {colour : Bool}
    {error : Value} {failure : Failure} (h : report.Wraps sink colour error)
    (hfails : report.result = .error failure) : ∃ err, failure = .template err := by
  obtain ⟨err, -, h⟩ := h
  cases sink with
  | propagate =>
    rw [h.1] at hfails
    exact ⟨.execution err, (Except.error.inj hfails).symm⟩
  | callback f =>
    rw [h.1] at hfails
    cases hfails
  | stream s =>
    rw [h.1] at hfails
    cases hfails

/-! ## Wrapping -/

theorem exists_passOn_eq_passedOn (s : Setting) (error : Value) (m : Machine) :
    ∃ typeName text, (passOn s error m).1 = .passedOn typeName text := by
  unfold passOn
  cases currentText (callTop s) 0 error m with
  | done t m' => exact ⟨_, t, rfl⟩
  | raised e line m' => exact ⟨_, [], rfl⟩
  | exhausted m' => exact ⟨_, [], rfl⟩

section

variable {executor : Executor} {escapes : Registry} {script : Script} {c : Config}
  {sink : OpenSink} {heap : Heap} {context : List (Text × Value)} {e : Thrown} {line : Nat}

theorem runInto_wraps {reason : Text} {m' : Machine} (colour : Bool)
    (hrun : executor ⟨sink.outlet, escapes, roundLimit⟩ script
      ⟨newNamespace c.moduleName context, heap, [], []⟩ = .raised e line m)
    (hordinary : isOrdinary m.heap (c.output.errorOf e) = true)
    (htakes : ∀ err, c.errors.Takes err)
    (hdescribe : describe ⟨sink.outlet, escapes, roundLimit⟩ (c.output.errorOf e) m =
      .done reason m') :
    (runInto colour executor escapes script c sink heap context).Wraps c.errors colour
      (c.output.errorOf e) := by
  refine ⟨_, ?_, (runInto_carries colour hrun hordinary hdescribe).delivers (htakes _)⟩
  rfl

/-- A run that is stopped by an error and delivers none has a failure of its own. -/
theorem runInto_failsWith_of_settle {failure : Failure} {m' : Machine} (colour : Bool)
    (hrun : executor ⟨sink.outlet, escapes, roundLimit⟩ script
      ⟨newNamespace c.moduleName context, heap, [], []⟩ = .raised e line m)
    (hsettle : settle colour ⟨sink.outlet, escapes, roundLimit⟩ script c e line m =
      (⟨some failure, [], [], []⟩, m')) :
    (runInto colour executor escapes script c sink heap context).FailsWith failure := by
  obtain ⟨⟨hdelivered, htold, hresult⟩, -, -⟩ := runInto_of_settle colour hrun hsettle
  exact ⟨hresult, hdelivered, htold⟩

theorem runInto_failsWith_of_raised {e' : Thrown} {line' : Nat} {m' : Machine} (colour : Bool)
    (hrun : executor ⟨sink.outlet, escapes, roundLimit⟩ script
      ⟨newNamespace c.moduleName context, heap, [], []⟩ = .raised e line m)
    (hordinary : isOrdinary m.heap (c.output.errorOf e) = true)
    (hdescribe : describe ⟨sink.outlet, escapes, roundLimit⟩ (c.output.errorOf e) m =
      .raised e' line' m') :
    (runInto colour executor escapes script c sink heap context).FailsWith
      (passOn ⟨sink.outlet, escapes, roundLimit⟩ (c.output.errorOf e') m').1 :=
  runInto_failsWith_of_settle colour hrun (settle_of_undescribed colour hordinary hdescribe)

theorem runInto_failsWith_of_exhausted {m' : Machine} (colour : Bool)
    (hrun : executor ⟨sink.outlet, escapes, roundLimit⟩ script
      ⟨newNamespace c.moduleName context, heap, [], []⟩ = .raised e line m)
    (hordinary : isOrdinary m.heap (c.output.errorOf e) = true)
    (hdescribe : describe ⟨sink.outlet, escapes, roundLimit⟩ (c.output.errorOf e) m =
      .exhausted m') :
    (runInto colour executor escapes script c sink heap context).FailsWith .exhausted :=
  runInto_failsWith_of_settle colour hrun (settle_of_exhausted colour hordinary hdescribe)

end

/-- A template whose code is stopped, and what can be checked of the error and of the state. -/
theorem exists_raised_of_any (r : CompileRequest) (segs : List Segment) (s : Setting)
    (moduleName : Text) (check : Thrown × Nat × Machine → Bool)
    (hok : (Environment.standard.compile ⟨[], []⟩ r).result.isOk = true)
    (hsegs : (Environment.standard.resolved? ⟨[], []⟩ r).map Document.segments = some segs)
    (hcheck : ((runPart s (parts 1 segs).flatten (.start moduleName [] #[])).error?.any check) =
      true) :
    ∃ script e line m, (Environment.standard.compile ⟨[], []⟩ r).result = .ok script ∧
      Executor.standard s script ⟨newNamespace moduleName [], #[], [], []⟩ = .raised e line m ∧
      check (e, line, m) = true := by
  obtain ⟨script, d, hscript, -, hlaid, rfl⟩ := exists_laysOut_of_isOk hok hsegs
  obtain ⟨⟨e, line, m⟩, hstop, hholds⟩ := (Option.any_eq_true _ _).mp hcheck
  refine ⟨script, e, line, m, hscript, ?_, hholds⟩
  rw [standard_eq_runPart, hlaid.body_eq]
  exact Outcome.eq_raised_of_error? hstop

/-- The class and the text of an error that is passed on. -/
def Failure.passedOn? : Failure → Option (Text × Text)
  | .passedOn typeName text => some (typeName, text)
  | _ => none

theorem Failure.eq_passedOn_of_passedOn? {failure : Failure} {typeName text : Text}
    (h : failure.passedOn? = some (typeName, text)) : failure = .passedOn typeName text := by
  cases failure with
  | passedOn typeName' text' => cases h; rfl
  | _ => cases h

end Stencil
