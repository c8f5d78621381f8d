import Stencil.Proofs.Diagnostic.Painted

/-!
# Sequences that are left over

Stripping goes through a text once. Where an unfinished sequence stands directly in front of a whole
one, the whole one is taken out, and what comes behind it may finish the other: a text like that
*splices* a sequence. There is no other way for a sequence to be left over.

* `hasSequence_stripColours_iff`: when a sequence is left over.
* `stripColours_idem_iff`: when stripping twice takes out more than stripping once.
* `ExecutionError.splices_compact_iff`: errors, by the texts in them.
-/

namespace Stencil

/-- An unfinished sequence stands directly in front of a whole one and goes on with what is left of
the text behind it. -/
def Text.Splices (t : Text) : Prop :=
  ∃ before start s rest more,
    t = before ++ (start ++ (s ++ rest)) ∧ IsSequence s ∧ start ≠ [] ∧ more ≠ [] ∧
      IsSequence (start ++ more) ∧ more <+: stripColours rest

theorem Text.Splices.append_left {t : Text} (h : Text.Splices t) (a : Text) :
    Text.Splices (a ++ t) := by
  obtain ⟨before, start, s, rest, more, rfl, hsplice⟩ := h
  exact ⟨a ++ before, start, s, rest, more, (List.append_assoc _ _ _).symm, hsplice⟩

/-! ## Unfinished sequences -/

/-- An unfinished sequence begins with its only escape character, and it is left as it is. -/
theorem IsSequence.exists_unfinished {start more : Text} (h : IsSequence (start ++ more))
    (hstart : start ≠ []) (hmore : more ≠ []) :
    (∃ body, start = '\x1b' :: body) ∧ ¬ HasSequence start := by
  obtain ⟨body, hbody, hprintable⟩ := h.exists_cons
  obtain ⟨c, start, rfl⟩ := List.exists_cons_of_ne_nil hstart
  rw [List.cons_append, List.cons.injEq] at hbody
  obtain ⟨rfl, rfl⟩ := hbody
  have hescape : '\x1b' ∉ start := fun hmem =>
    hprintable _ (List.mem_append_left more hmem) (by decide)
  refine ⟨⟨start, rfl⟩, fun hhas => ?_⟩
  rcases hasSequence_cons_iff.mp hhas with ⟨s, hs, rest, hrest⟩ | ⟨s, hs, hin⟩
  · -- a sequence in front of `rest ++ more` would end where the whole one does
    rw [← hrest, List.append_assoc] at h
    exact hmore (List.append_eq_nil_iff.mp (hs.eq_nil_of_append h)).2
  · obtain ⟨rest, rfl, -⟩ := hs.exists_cons
    exact hescape (hin.subset List.mem_cons_self)

theorem stripColours_unfinished_append {start more s : Text} (h : IsSequence (start ++ more))
    (hstart : start ≠ []) (hmore : more ≠ []) (hs : IsSequence s) (rest : Text) :
    stripColours (start ++ (s ++ rest)) = start ++ stripColours rest := by
  obtain ⟨-, hnone⟩ := h.exists_unfinished hstart hmore
  rw [stripColours_append start (hs.fresh_append rest), stripColours_sequence_append hs,
    stripColours_eq_self_iff.mpr hnone]

/-- A text splits where its next escape character stands. -/
theorem exists_eq_append_escape (t : Text) :
    ∃ a b, t = a ++ b ∧ '\x1b' ∉ a ∧ (b = [] ∨ ∃ rest, b = '\x1b' :: rest) := by
  by_cases h : '\x1b' ∈ t
  · obtain ⟨a, b, rfl, ha⟩ := List.eq_append_cons_of_mem h
    exact ⟨a, _, rfl, ha, .inr ⟨b, rfl⟩⟩
  · exact ⟨t, [], (List.append_nil t).symm, h, .inl rfl⟩

/-! ## What is left over -/

theorem Text.Splices.hasSequence {t : Text} (h : Text.Splices t) :
    HasSequence (stripColours t) := by
  obtain ⟨before, start, s, rest, more, rfl, hs, hstart, hmore, hwhole, tail, htail⟩ := h
  obtain ⟨⟨body, hbody⟩, -⟩ := hwhole.exists_unfinished hstart hmore
  have hfresh : Fresh (start ++ (s ++ rest)) := by
    rw [hbody]
    simp only [Fresh, List.cons_append, List.head?_cons, Option.mem_some_iff, forall_eq']
    decide
  refine ⟨start ++ more, hwhole, stripColours before, tail, ?_⟩
  rw [stripColours_append before hfresh, stripColours_unfinished_append hwhole hstart hmore hs,
    ← htail, List.append_assoc, List.append_assoc]

/-- A sequence that comes to stand behind an escape character without a sequence was spliced. -/
theorem splices_of_isPrefix {s t : Text} (hs : IsSequence s)
    (hnone : afterSequence? ('\x1b' :: t) = none) (hpre : s <+: '\x1b' :: stripColours t) :
    Text.Splices ('\x1b' :: t) := by
  obtain ⟨body, hbody, hprintable⟩ := hs.exists_cons
  obtain ⟨a, b, rfl, ha, hb⟩ := exists_eq_append_escape t
  rw [stripColours_append_of_not_mem ha, ← List.cons_append] at hpre
  -- the sequence reaches into what is left behind `a`, for there was none before
  obtain hle | ⟨more, rfl⟩ := List.prefix_or_prefix_of_prefix hpre (List.prefix_append _ _)
  · exact absurd (hle.trans (List.prefix_append ('\x1b' :: a) b))
      (afterSequence?_eq_none_iff.mp hnone s hs)
  · have hmore : more <+: stripColours b := (List.prefix_append_right_inj _).mp hpre
    have hne : more ≠ [] := by
      rintro rfl
      rw [List.append_nil] at hs
      exact afterSequence?_eq_none_iff.mp hnone _ hs (List.prefix_append ('\x1b' :: a) b)
    obtain rfl | ⟨rest, rfl⟩ := hb
    · rw [stripColours] at hmore
      exact absurd (List.prefix_nil.mp hmore) hne
    · cases hnext : afterSequence? ('\x1b' :: rest) with
      | some rest' =>
        obtain ⟨s', hs', hsplit⟩ := afterSequence?_eq_some_iff.mp hnext
        rw [hsplit, stripColours_sequence_append hs'] at hmore
        rw [hsplit]
        exact ⟨[], '\x1b' :: a, s', rest', more, rfl, hs', List.cons_ne_nil _ _, hne, hs, hmore⟩
      | none =>
        -- the next character of the sequence would be the escape character
        obtain ⟨c, more, rfl⟩ := List.exists_cons_of_ne_nil hne
        rw [stripColours_of_none hnext, List.cons_prefix_cons] at hmore
        rw [List.cons_append, List.cons.injEq] at hbody
        refine absurd ?_ (hprintable c (by simp [← hbody.2]))
        rw [hmore.1]
        decide

/-- **A sequence is left over exactly if the text splices one.** -/
theorem hasSequence_stripColours_iff {t : Text} :
    HasSequence (stripColours t) ↔ Text.Splices t := by
  refine ⟨fun h => ?_, Text.Splices.hasSequence⟩
  fun_induction stripColours t with
  | case1 => exact absurd h not_hasSequence_nil
  | case2 c t rest hsome ih =>
    obtain ⟨s, -, hsplit⟩ := afterSequence?_eq_some_iff.mp hsome
    rw [hsplit]
    exact (ih h).append_left s
  | case3 c t hnone ih =>
    rcases hasSequence_cons_iff.mp h with ⟨s, hs, hpre⟩ | hmore
    · obtain ⟨body, rfl, -⟩ := hs.exists_cons
      obtain rfl := (List.cons_prefix_cons.mp hpre).1
      exact splices_of_isPrefix hs hnone hpre
    · exact (ih hmore).append_left [c]

/-- Stripping twice is stripping once exactly if the text splices no sequence. -/
theorem stripColours_idem_iff {t : Text} :
    stripColours (stripColours t) = stripColours t ↔ ¬ Text.Splices t := by
  rw [stripColours_eq_self_iff, hasSequence_stripColours_iff]

/-! ## Errors -/

theorem Text.splices_append_iff {a : Text} (h : '\x1b' ∉ a) (t : Text) :
    Text.Splices (a ++ t) ↔ Text.Splices t := by
  rw [← hasSequence_stripColours_iff, ← hasSequence_stripColours_iff,
    stripColours_append_of_not_mem h, hasSequence_append_of_not_mem h]

theorem Text.not_splices_of_not_mem {t : Text} (h : '\x1b' ∉ t) : ¬ Text.Splices t := by
  rw [← hasSequence_stripColours_iff, stripColours_of_not_mem h]
  exact not_hasSequence_of_not_mem h

/-- Colours of a diagnostic splice nothing: what is left without them decides. -/
theorem Text.splices_congr {t u : Text} (h : stripColours t = stripColours u) :
    Text.Splices t ↔ Text.Splices u := by
  rw [← hasSequence_stripColours_iff, h, hasSequence_stripColours_iff]

theorem Text.splices_paint_iff (colour : Bool) (tints : List Tint) (t : Text) :
    Text.Splices (paint colour tints t) ↔ Text.Splices t :=
  Text.splices_congr (stripColours_paint colour tints t)

/-- Rows splice one by one. -/
theorem Text.splices_join_iff (rows : List Text) :
    Text.Splices (Text.join ['\n'] rows) ↔ ∃ row ∈ rows, Text.Splices row := by
  induction rows with
  | nil => simpa [Text.join] using Text.not_splices_of_not_mem (t := []) List.not_mem_nil
  | cons row rows ih =>
    cases rows with
    | nil => simp [Text.join]
    | cons next rows =>
      have hnewline : '\x1b' ∉ ['\n'] := by decide
      rw [Text.join_cons_cons, ← hasSequence_stripColours_iff,
        stripColours_append row (fresh_newline _), stripColours_cons_of_ne (by decide),
        hasSequence_append_iff _ (fresh_newline _), hasSequence_stripColours_iff,
        ← List.singleton_append, hasSequence_append_of_not_mem hnewline,
        hasSequence_stripColours_iff, ih]
      simp only [List.mem_cons, exists_eq_or_imp]

theorem splices_sourceLine_iff (colour : Bool) (line : Int) (content : Text) (isError : Bool) :
    Text.Splices (sourceLine colour line content isError) ↔ Text.Splices content := by
  have hfront : '\x1b' ∉ (if isError then '>' else ' ') :: Text.padLeft 3 (Text.ofInt line) ++
      " | ".toList := by
    rw [List.mem_append, not_or]
    exact ⟨escape_not_mem_lineNumber line isError, by decide⟩
  rw [← Text.splices_append_iff hfront content]
  refine Text.splices_congr ?_
  rw [stripColours_sourceLine, stripColours_append_of_not_mem hfront]

namespace Snippet

theorem exists_row_splices_iff (colour : Bool) (s : Snippet) (line : Int × Text) :
    (∃ row ∈ s.rows colour line, Text.Splices row) ↔ Text.Splices line.2 := by
  have hcaret (column : Int) : ¬ Text.Splices (caretRow colour column) := by
    have hplain := escape_not_mem_caretRow column
    rw [Text.splices_congr
      ((stripColours_caretRow colour column).trans (stripColours_of_not_mem hplain).symm)]
    exact Text.not_splices_of_not_mem hplain
  unfold rows
  simp only [List.mem_cons, exists_eq_or_imp, splices_sourceLine_iff]
  refine or_iff_left ?_
  rintro ⟨row, hrow, hsplices⟩
  cases hcolumn : s.column with
  | none => simp [hcolumn] at hrow
  | some column =>
    simp only [hcolumn] at hrow
    split at hrow
    · rw [List.mem_singleton] at hrow
      exact hcaret column (hrow ▸ hsplices)
    · cases hrow

theorem splices_format_iff (colour : Bool) (s : Snippet) :
    Text.Splices (s.format colour) ↔ ∃ line ∈ s.lines, Text.Splices line.2 := by
  have hrule : ¬ Text.Splices (paintDim colour "   |".toList) := by
    rw [paintDim, Text.splices_paint_iff]
    exact Text.not_splices_of_not_mem (by decide)
  have hlines : (∃ row ∈ s.lines.flatMap (s.rows colour), Text.Splices row) ↔
      ∃ line ∈ s.lines, Text.Splices line.2 := by
    simp only [List.mem_flatMap, ← s.exists_row_splices_iff colour]
    constructor
    · rintro ⟨row, ⟨line, hline, hrow⟩, h⟩
      exact ⟨line, hline, row, hrow, h⟩
    · rintro ⟨line, hline, row, hrow, h⟩
      exact ⟨row, ⟨line, hline, hrow⟩, h⟩
  rw [format, Text.splices_join_iff, ← hlines]
  simp only [List.mem_append, List.mem_cons, List.not_mem_nil, or_false, or_and_right, exists_or,
    exists_eq_left, hrule, false_or]

end Snippet

namespace ExecutionError

/-- A text in the error splices a sequence. -/
def Splices (e : ExecutionError) : Prop :=
  Text.Splices e.headline ∨ Text.Splices e.location ∨
    ∃ s, e.snippet = some s ∧ ∃ line ∈ s.lines, Text.Splices line.2

/-- **A sequence is left over in an error exactly if one of its texts splices one.** -/
theorem splices_compact_iff (colour : Bool) (e : ExecutionError) :
    Text.Splices (e.compact colour) ↔ e.Splices := by
  have hcode : '\x1b' ∉ ErrorCode.executionFailed.label ++ ": ".toList := by
    rw [List.mem_append, not_or]
    exact ⟨ErrorCode.escape_not_mem_label _, by decide⟩
  have hplace : '\x1b' ∉ "  Location: ".toList := by decide
  have hheader : Text.Splices (paintCode colour ErrorCode.executionFailed.label ++ ": ".toList ++
      e.headline) ↔ Text.Splices e.headline := by
    rw [← Text.splices_append_iff hcode e.headline]
    refine Text.splices_congr ?_
    rw [List.append_assoc, List.append_assoc, stripColours_paintCode_append,
      stripColours_append_of_not_mem (ErrorCode.escape_not_mem_label _)]
  have hsnippet : (∃ row ∈ (e.snippet.map (·.format colour)).toList, Text.Splices row) ↔
      ∃ s, e.snippet = some s ∧ ∃ line ∈ s.lines, Text.Splices line.2 := by
    cases e.snippet with
    | none => simp
    | some s => simp [s.splices_format_iff colour]
  unfold compact
  simp only [Text.splices_join_iff, List.mem_cons, exists_eq_or_imp, hheader, hsnippet,
    Text.splices_append_iff hplace, paintLocation, Text.splices_paint_iff]
  rfl

end ExecutionError

end Stencil
