import Stencil.Proofs.Diagnostic.Leftover
import Stencil.Proofs.Run.Cause

/-!
# What an error stream is told

Colour is for terminals. A stream that is no terminal is given the error without its control
sequences, so what it is given does not depend on colour, and neither does anything else that a run
leaves behind. That text is stripped once: a sequence stands in it exactly if a text of the error
splices one.

* `plain_text_is_the_same_in_colour`: errors and runs, with colour and without.
* `stripped_text_has_sequence_iff`: which sequences are left in what a run writes.
* `not_stripped_text_is_plain_of_nested`: a sequence inside a sequence.
-/

namespace Stencil

/-! ## Streams that are no terminals -/

/-- A stream that is no terminal is given the one-screen form without its colours. -/
theorem Stream.errorText_of_not_terminal {s : Stream} (h : s.isTerminal = false) (colour : Bool)
    (e : ExecutionError) : s.errorText colour e = stripColours (e.compact false) ++ ['\n'] := by
  rw [errorText, h, if_neg Bool.false_ne_true, e.stripColours_compact colour]

theorem Stream.hasSequence_errorText_iff {s : Stream} (h : s.isTerminal = false) (colour : Bool)
    (e : ExecutionError) : HasSequence (s.errorText colour e) ↔ e.Splices := by
  rw [s.errorText_of_not_terminal h, hasSequence_append_iff _ (fresh_newline []),
    hasSequence_stripColours_iff, e.splices_compact_iff]
  exact or_iff_left (not_hasSequence_of_not_mem (by decide))

/-- Errors are written to a terminal. -/
inductive ErrorSink.WritesToTerminal : ErrorSink → Prop
  | stream {s : Stream} (h : s.isTerminal = true) : WritesToTerminal (.stream s)

theorem ErrorSink.not_writesToTerminal_stream_iff {s : Stream} :
    ¬ (ErrorSink.stream s).WritesToTerminal ↔ s.isTerminal = false := by
  rw [← Bool.not_eq_true, not_iff_not]
  constructor
  · rintro ⟨h⟩
    exact h
  · exact .stream

/-! ## An error with nested sequences -/

/-- The code is stopped by an ordinary error of this class that is described in this way. -/
def isDescribedAs (s : Setting) (typeName reason : Text) (stop : Thrown × Nat × Machine) : Bool :=
  let error := OutputSink.captured.errorOf stop.1
  isOrdinary stop.2.2.heap error &&
    (describe s error stop.2.2).answer?.any fun answer =>
      answer.1 == reason && answer.2.heap.typeName error == typeName

theorem exists_describe_of_isDescribedAs {s : Setting} {typeName reason : Text} {e : Thrown}
    {line : Nat} {m : Machine} (h : isDescribedAs s typeName reason (e, line, m) = true) :
    isOrdinary m.heap (OutputSink.captured.errorOf e) = true ∧
      ∃ m', describe s (OutputSink.captured.errorOf e) m = .done reason m' ∧
        m'.heap.typeName (OutputSink.captured.errorOf e) = typeName := by
  obtain ⟨hordinary, hdescribed⟩ := Bool.and_eq_true_iff.mp h
  obtain ⟨⟨reason', m'⟩, hanswer, hcompare⟩ := (Option.any_eq_true _ _).mp hdescribed
  obtain ⟨hreason, htypeName⟩ := Bool.and_eq_true_iff.mp hcompare
  obtain rfl : reason' = reason := beq_iff_eq.mp hreason
  exact ⟨hordinary, m', Outcome.eq_done_of_answer? hanswer, beq_iff_eq.mp htypeName⟩

/-- A template whose code is stopped by an error, and what the error stream of its run is told. -/
theorem exists_told_of_any (s : Stream) (r : CompileRequest) (segs : List Segment)
    (typeName reason : Text) (hroom : s.room = none)
    (hok : (Environment.standard.compile ⟨[], []⟩ r).result.isOk = true)
    (hsegs : (Environment.standard.resolved? ⟨[], []⟩ r).map Document.segments = some segs)
    (hcheck : ((runPart ⟨.open, .standard, roundLimit⟩ (parts 1 segs).flatten
      (.start Config.standard.moduleName [] #[])).error?.any
        (isDescribedAs ⟨.open, .standard, roundLimit⟩ typeName reason)) = true) :
    let c : Config := { Config.standard with errors := .stream s }
    ∃ script line cause, (Environment.standard.compile ⟨[], []⟩ r).result = .ok script ∧
      cause.typeName = typeName ∧
      ∀ colour, (run colour .standard .standard script c ⟨[], []⟩ #[] []).told =
        s.errorText colour (executionError script c line cause reason) := by
  intro c
  obtain ⟨script, e, line, m, hscript, hrun, hchecks⟩ :=
    exists_raised_of_any r segs ⟨.open, .standard, roundLimit⟩ Config.standard.moduleName
      (isDescribedAs ⟨.open, .standard, roundLimit⟩ typeName reason) hok hsegs hcheck
  obtain ⟨hordinary, m', hdescribe, htypeName⟩ := exists_describe_of_isDescribedAs hchecks
  refine ⟨script, line, ⟨m'.heap.typeName (c.output.errorOf e), .error (c.output.errorOf e)⟩, hscript,
    htypeName, fun colour => ?_⟩
  have hopen : (c.output.open ⟨[], []⟩ c.encoding).2 = .ok ⟨.open, fun _ => ⟨[], []⟩⟩ := rfl
  obtain ⟨-, htold, -⟩ :=
    runInto_carries (c := c) (o := ⟨.open, fun _ => ⟨[], []⟩⟩) colour hrun hordinary hdescribe
  have hdelivered (e : ExecutionError) : (c.errors.deliver colour e).told = s.errorText colour e := by
    simp [c, ErrorSink.deliver, hroom]
  rw [run_eq_runInto hopen, htold, hdelivered]

/-- A whole sequence inside an unfinished one. -/
def nestedSequences : Text := "\x1b[\x1b[0mm".toList

/-- A template that raises an error with such a text. -/
def raiseNested : CompileRequest :=
  ⟨some ("<?py raise ValueError('".toList ++ nestedSequences ++ "') ?>".toList), none, none, none⟩

/-- Output is captured, and errors go to a stream that is no terminal and takes every text. -/
def toldConfig : Config := { Config.standard with errors := .stream ⟨[], false, none, true⟩ }

theorem not_writesToTerminal_toldConfig : ¬ toldConfig.errors.WritesToTerminal :=
  ErrorSink.not_writesToTerminal_stream_iff.mpr rfl

/-- What the stream is told when the template runs. -/
theorem exists_told_raiseNested :
    ∃ script line cause, (Environment.standard.compile ⟨[], []⟩ raiseNested).result = .ok script ∧
      cause.typeName = "ValueError".toList ∧
      ∀ colour, (run colour .standard .standard script toldConfig ⟨[], []⟩ #[] []).told =
        Stream.errorText ⟨[], false, none, true⟩ colour
          (executionError script toldConfig line cause nestedSequences) :=
  exists_told_of_any ⟨[], false, none, true⟩ raiseNested
    [⟨.code (" raise ValueError('".toList ++ nestedSequences ++ "') ".toList), "<string>".toList, 1⟩]
    "ValueError".toList nestedSequences rfl (by decide +kernel) (by decide +kernel)
    (by decide +kernel)

theorem stripColours_nestedSequences : stripColours nestedSequences = "\x1b[m".toList := by
  have hwhole : IsSequence ("\x1b[".toList ++ "m".toList) := isSequence_of_all [] [] 'm' rfl
  have hstrip : stripColours nestedSequences = "\x1b[".toList ++ stripColours "m".toList :=
    stripColours_unfinished_append hwhole (by decide) (by decide) Tint.reset.isSequence "m".toList
  rw [hstrip, stripColours_of_not_mem (by decide)]
  rfl

theorem splices_nestedSequences : Text.Splices nestedSequences := by
  rw [← hasSequence_stripColours_iff, stripColours_nestedSequences]
  exact ⟨_, isSequence_of_all [] [] 'm' rfl, List.infix_rfl⟩

/-- An error of that text, whatever its class is called. -/
theorem splices_executionError_nestedSequences {script : Script} {c : Config} {line : Nat}
    {cause : Cause} (h : '\x1b' ∉ cause.typeName) :
    (executionError script c line cause nestedSequences).Splices := by
  have hname : '\x1b' ∉ cause.typeName ++ ": ".toList := by
    rw [List.mem_append, not_or]
    exact ⟨h, by decide⟩
  exact .inl ((Text.splices_append_iff hname nestedSequences).mpr splices_nestedSequences)

/-! ## Colour -/

theorem ErrorSink.deliver_eq {sink : ErrorSink} (h : ¬ sink.WritesToTerminal) (colour : Bool)
    (e : ExecutionError) : sink.deliver colour e = sink.deliver false e := by
  cases sink with
  | propagate => rfl
  | callback f => rfl
  | stream s =>
    have hs : s.isTerminal = false := not_writesToTerminal_stream_iff.mp h
    simp only [deliver, s.errorText_of_not_terminal hs]

/-- A run is the same in colour, unless errors are written to a terminal. -/
theorem run_eq_of_not_writesToTerminal {c : Config} (h : ¬ c.errors.WritesToTerminal)
    (colour : Bool) (executor : Executor) (escapes : Registry) (script : Script) (tree : FileTree)
    (heap : Heap) (context : List (Text × Value)) :
    run colour executor escapes script c tree heap context =
      run false executor escapes script c tree heap context := by
  have hsettle (s : Setting) (e : Thrown) (line : Nat) (m : Machine) :
      settle colour s script c e line m = settle false s script c e line m := by
    simp only [settle, c.errors.deliver_eq h colour]
  simp only [run, runInto, hsettle]

/-- **Text without colour is the same whether colour is on or off.** The plain text of an error is the
same, its one-screen form is the same once the control sequences are taken out, and so is the text that
a stream is given that is no terminal; all that a run leaves behind is the same. Nothing is asked of
the texts in an error: they may have control sequences of their own, or parts of one. -/
theorem plain_text_is_the_same_in_colour :
    (∀ e : TemplateError,
      e.message true = e.message false ∧
      stripColours (e.compact true) = stripColours (e.compact false)) ∧
    (∀ (s : Stream) (e : ExecutionError), s.isTerminal = false →
      s.errorText true e = s.errorText false e) ∧
    ∀ (executor : Executor) (escapes : Registry) (script : Script) (c : Config) (tree : FileTree)
      (heap : Heap) (context : List (Text × Value)), ¬ c.errors.WritesToTerminal →
      run true executor escapes script c tree heap context =
        run false executor escapes script c tree heap context := by
  refine ⟨fun e => ⟨e.message_eq true, e.stripColours_compact true⟩, fun s e hs => ?_, ?_⟩
  · rw [s.errorText_of_not_terminal hs true, s.errorText_of_not_terminal hs false]
  · intro executor escapes script c tree heap context hc
    exact run_eq_of_not_writesToTerminal hc true executor escapes script tree heap context

/-- An error with a part of a sequence wherever a text may stand, and a template that raises one. -/
theorem plain_text_is_the_same_in_colour_of_parts :
    let e : ExecutionError :=
      ⟨"\x1b[".toList, some "\x1b[3".toList, some 1, none,
        some ⟨[(1, "0m\x1b".toList)], 1, none⟩, none⟩
    let s : Stream := ⟨[], false, none, true⟩
    ∃ script, (Environment.standard.compile ⟨[], []⟩ raiseNested).result = .ok script ∧
      e.compact true ≠ e.compact false ∧ e.message true = e.message false ∧
      stripColours (e.compact true) = stripColours (e.compact false) ∧
      s.isTerminal = false ∧ s.errorText true e = s.errorText false e ∧
      ¬ toldConfig.errors.WritesToTerminal ∧
      (run true .standard .standard script toldConfig ⟨[], []⟩ #[] []).told ≠ [] ∧
      run true .standard .standard script toldConfig ⟨[], []⟩ #[] [] =
        run false .standard .standard script toldConfig ⟨[], []⟩ #[] [] := by
  intro e s
  obtain ⟨script, line, cause, hscript, -, htold⟩ := exists_told_raiseNested
  obtain ⟨herror, hstream, hrun⟩ := plain_text_is_the_same_in_colour
  obtain ⟨hmessage, hcompact⟩ := herror (.execution e)
  refine ⟨script, hscript, by decide, hmessage, hcompact, rfl, hstream s e rfl,
    not_writesToTerminal_toldConfig, ?_, hrun _ _ _ _ _ _ _ not_writesToTerminal_toldConfig⟩
  rw [htold, Stream.errorText]
  simp

/-! ## What a run writes to an error stream -/

theorem ErrorSink.told_deliver (sink : ErrorSink) (colour : Bool) (e : ExecutionError) :
    (sink.deliver colour e).told = [] ∨
      ∃ s, sink = .stream s ∧ (sink.deliver colour e).told = s.errorText colour e := by
  cases sink with
  | propagate => exact .inl rfl
  | callback f => exact .inl rfl
  | stream s =>
    cases hroom : s.room.any (· == 0) with
    | true => exact .inl (by simp [deliver, hroom])
    | false => exact .inr ⟨s, rfl, by simp [deliver, hroom]⟩

/-- An error of the run is told to the stream, or nothing is. -/
def Config.Tells (c : Config) (colour : Bool) (told : Text) : Prop :=
  told = [] ∨ ∃ s e, c.errors = .stream s ∧ told = s.errorText colour e

theorem tells_settle (colour : Bool) (s : Setting) (script : Script) (c : Config) (e : Thrown)
    (line : Nat) (m : Machine) : c.Tells colour (settle colour s script c e line m).1.told := by
  unfold settle
  dsimp only
  split
  · exact .inl rfl
  · split
    · rename_i reason m' _
      rcases c.errors.told_deliver colour (executionError script c line
        ⟨m'.heap.typeName (c.output.errorOf e), .error (c.output.errorOf e)⟩ reason) with
        hnone | ⟨stream, hstream, htold⟩
      · exact .inl hnone
      · exact .inr ⟨stream, _, hstream, htold⟩
    · exact .inl rfl
    · exact .inl rfl

theorem tells_run (colour : Bool) (executor : Executor) (escapes : Registry) (script : Script)
    (c : Config) (tree : FileTree) (heap : Heap) (context : List (Text × Value)) :
    c.Tells colour (run colour executor escapes script c tree heap context).told := by
  unfold run
  split
  · unfold runInto
    dsimp only
    split
    · exact .inl rfl
    · exact tells_settle ..
    · exact .inl rfl
  · exact .inl rfl

/-- **What is left in a text that has been stripped.** A text is stripped once, from left to right. A
control sequence is left in it exactly if an unfinished sequence stands directly in front of a whole
one and what is left behind that one finishes it; and then, and only then, stripping again takes out
more. A stream that is no terminal is given a sequence exactly if a text of the error is like that:
the headline, the place, or a line of source in the snippet. -/
theorem stripped_text_has_sequence_iff (t : Text) :
    (HasSequence (stripColours t) ↔ Text.Splices t) ∧
    (stripColours (stripColours t) = stripColours t ↔ ¬ Text.Splices t) ∧
    (∀ (s : Stream) (colour : Bool) (e : ExecutionError), s.isTerminal = false →
      (HasSequence (s.errorText colour e) ↔ e.Splices)) ∧
    ∀ (colour : Bool) (executor : Executor) (escapes : Registry) (script : Script) (c : Config)
      (tree : FileTree) (heap : Heap) (context : List (Text × Value)),
      ¬ c.errors.WritesToTerminal →
      let told := (run colour executor escapes script c tree heap context).told
      (HasSequence told ↔
        ∃ s e, c.errors = .stream s ∧ told = s.errorText colour e ∧ e.Splices) := by
  refine ⟨hasSequence_stripColours_iff, stripColours_idem_iff,
    fun s colour e hs => s.hasSequence_errorText_iff hs colour e, ?_⟩
  intro colour executor escapes script c tree heap context hc told
  have htext {s : Stream} (hs : c.errors = .stream s) (e : ExecutionError) :
      HasSequence (s.errorText colour e) ↔ e.Splices := by
    rw [hs, ErrorSink.not_writesToTerminal_stream_iff] at hc
    exact s.hasSequence_errorText_iff hc colour e
  constructor
  · intro hhas
    rcases tells_run colour executor escapes script c tree heap context with
      hnone | ⟨s, e, hs, htold⟩
    · exact absurd (hnone ▸ hhas) not_hasSequence_nil
    · exact ⟨s, e, hs, htold, (htext hs e).mp (htold ▸ hhas)⟩
  · rintro ⟨s, e, hs, htold, hsplices⟩
    rw [htold]
    exact (htext hs e).mpr hsplices

/-- A text in red leaves nothing, and neither does an error with that text; a template that raises
nested sequences. -/
theorem stripped_text_has_sequence_iff_of_red :
    let t : Text := Tint.brightRed.sequence ++ "red".toList
    let e : ExecutionError := ⟨t, none, none, none, none, none⟩
    let s : Stream := ⟨[], false, none, true⟩
    ¬ HasSequence (stripColours t) ∧ stripColours (stripColours t) = stripColours t ∧
      s.isTerminal = false ∧ ¬ HasSequence (s.errorText true e) ∧
      ¬ toldConfig.errors.WritesToTerminal ∧
      ∃ script, (Environment.standard.compile ⟨[], []⟩ raiseNested).result = .ok script ∧
        HasSequence (run true .standard .standard script toldConfig ⟨[], []⟩ #[] []).told := by
  intro t e s
  obtain ⟨script, line, cause, hscript, htypeName, htold⟩ := exists_told_raiseNested
  have ht : ¬ Text.Splices t := by
    rw [Text.splices_congr (stripColours_sequence_append Tint.brightRed.isSequence _)]
    exact Text.not_splices_of_not_mem (by decide)
  have he : ¬ e.Splices := by
    rintro (h | h | ⟨_, ⟨⟩, -⟩)
    · exact ht h
    · exact Text.not_splices_of_not_mem (by decide) h
  obtain ⟨hleft, htwice, hstream, hrun⟩ := stripped_text_has_sequence_iff t
  refine ⟨fun h => ht (hleft.mp h), htwice.mpr ht, rfl, fun h => he ((hstream s true e rfl).mp h),
    not_writesToTerminal_toldConfig, script, hscript, ?_⟩
  refine (hrun _ _ _ _ _ _ _ _ not_writesToTerminal_toldConfig).mpr ⟨s, _, rfl, htold true, ?_⟩
  exact splices_executionError_nestedSequences (by rw [htypeName]; decide)

/-- **A sequence inside a sequence is left over**: the outer one is finished only once the inner one is
taken out. A stream that is no terminal is given it, too. -/
theorem not_stripped_text_is_plain_of_nested :
    stripColours nestedSequences = "\x1b[m".toList ∧ HasSequence (stripColours nestedSequences) ∧
      stripColours (stripColours nestedSequences) ≠ stripColours nestedSequences ∧
      ∃ script, (Environment.standard.compile ⟨[], []⟩ raiseNested).result = .ok script ∧
        ¬ toldConfig.errors.WritesToTerminal ∧
        HasSequence (run false .standard .standard script toldConfig ⟨[], []⟩ #[] []).told := by
  obtain ⟨script, line, cause, hscript, htypeName, htold⟩ := exists_told_raiseNested
  refine ⟨stripColours_nestedSequences, splices_nestedSequences.hasSequence,
    fun h => stripColours_idem_iff.mp h splices_nestedSequences, script, hscript,
    not_writesToTerminal_toldConfig, ?_⟩
  rw [htold, Stream.hasSequence_errorText_iff rfl]
  exact splices_executionError_nestedSequences (by rw [htypeName]; decide)

end Stencil
