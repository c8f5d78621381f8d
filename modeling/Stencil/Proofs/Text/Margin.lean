import Stencil.Proofs.Text.Lines

/-!
# Margins

The margin of lines is the indentation that they have in common, lines of blanks and tabs alone left
aside. Lines that are all moved by the same indentation have that much more of a margin, and
removing the margin gives the same lines. A text that has lost its margin has none to lose.

* `margin_of_shifted`: the margin of lines that are moved.
* `withoutMargin_eq_of_shifted`: lines that are moved are the same without their margin.
* `dedent_dedent`: removing the margin twice.
-/

namespace Stencil.Text

/-! ## Common starts -/

theorem commonStart_append (w s t : Text) :
    commonStart (w ++ s) (w ++ t) = w ++ commonStart s t := by
  induction w with
  | nil => rfl
  | cons c w ih => rw [List.cons_append, List.cons_append, commonStart, if_pos rfl, ih]; rfl

theorem foldl_commonStart_append (w first : Text) (rest : List Text) :
    (rest.map (w ++ ·)).foldl commonStart (w ++ first) = w ++ rest.foldl commonStart first := by
  induction rest generalizing first with
  | nil => rfl
  | cons s rest ih => rw [List.map_cons, List.foldl_cons, List.foldl_cons, commonStart_append, ih]

/-! ## The margin -/

/-- Lines of blanks and tabs alone have no margin. -/
theorem margin_of_all_indent {ls : List Text} (h : ∀ l ∈ ls, l.all isIndent = true) :
    margin ls = [] := by
  have hnone : ls.filterMap indent? = [] :=
    List.filterMap_eq_nil_iff.mpr fun l hl => by rw [indent?, if_pos (h l hl)]
  rw [margin, hnone]

theorem all_indent_margin (ls : List Text) : (margin ls).all isIndent = true := by
  by_cases h : ∀ l ∈ ls, l.all isIndent = true
  · rw [margin_of_all_indent h]
    rfl
  · obtain ⟨l, hl, hmore⟩ : ∃ l ∈ ls, l.all isIndent = false := by simpa using h
    refine List.all_eq_true.mpr fun c hc => ?_
    exact List.mem_takeWhile_imp ((isPrefix_margin hl hmore).subset hc)

/-! ## Lines that are moved -/

/-- The second line is the first one moved by `w`; a line of blanks and tabs alone may be any other
such line. -/
def Shifted (w l l' : Text) : Prop :=
  if l.all isIndent = true then l'.all isIndent = true else l' = w ++ l

theorem Shifted.all_eq {w l l' : Text} (h : Shifted w l l') :
    l'.all isIndent = l.all isIndent := by
  unfold Shifted at h
  split at h
  · rename_i hblank
    rw [h, hblank]
  · rename_i hmore
    rw [h, List.all_append, Bool.eq_false_iff.mpr hmore, Bool.and_false]

theorem Shifted.indent?_eq {w l l' : Text} (hw : w.all isIndent = true) (h : Shifted w l l') :
    indent? l' = (indent? l).map (w ++ ·) := by
  rw [indent?, indent?, h.all_eq]
  unfold Shifted at h
  split at h
  · rename_i hblank
    rw [if_pos hblank, if_pos hblank]
    rfl
  · rename_i hmore
    rw [if_neg hmore, if_neg hmore, h, Option.map_some,
      List.takeWhile_append_of_pos (List.all_eq_true.mp hw)]

theorem filterMap_indent?_of_shifted {w : Text} (hw : w.all isIndent = true) {ls ls' : List Text}
    (h : List.Forall₂ (Shifted w) ls ls') :
    ls'.filterMap indent? = (ls.filterMap indent?).map (w ++ ·) := by
  induction h with
  | nil => rfl
  | @cons l l' ls ls' hl _ ih =>
    rw [List.filterMap_cons, List.filterMap_cons, hl.indent?_eq hw, ih]
    cases indent? l <;> rfl

/-- **Lines that are moved have that much more of a margin**, if there are any that count. -/
theorem margin_of_shifted {w : Text} (hw : w.all isIndent = true) {ls ls' : List Text}
    (h : List.Forall₂ (Shifted w) ls ls') (hmore : ∃ l ∈ ls, l.all isIndent = false) :
    margin ls' = w ++ margin ls := by
  rw [margin, margin, filterMap_indent?_of_shifted hw h]
  cases hs : ls.filterMap indent? with
  | nil =>
    obtain ⟨l, hl, hfalse⟩ := hmore
    have hnone := List.filterMap_eq_nil_iff.mp hs l hl
    simp [indent?, hfalse] at hnone
  | cons first rest => exact foldl_commonStart_append w first rest

/-! ## Lines without their margin -/

theorem Shifted.trimmed_eq {w l l' : Text} (h : Shifted w l l') (width : Nat) :
    trimmed (w.length + width) l' = trimmed width l := by
  rw [trimmed, trimmed, h.all_eq]
  split
  · rfl
  · rename_i hmore
    have hl' : l' = w ++ l := by simpa only [Shifted, if_neg hmore] using h
    rw [hl', ← List.drop_drop, List.drop_left]

/-- **Lines that are moved are the same without their margin.** -/
theorem withoutMargin_eq_of_shifted {w : Text} (hw : w.all isIndent = true) {ls ls' : List Text}
    (h : List.Forall₂ (Shifted w) ls ls') : withoutMargin ls' = withoutMargin ls := by
  rw [withoutMargin, withoutMargin]
  by_cases hmore : ∃ l ∈ ls, l.all isIndent = false
  · rw [margin_of_shifted hw h hmore, List.length_append]
    clear hmore
    generalize (margin ls).length = width
    induction h with
    | nil => rfl
    | cons hl _ ih => rw [List.map_cons, List.map_cons, hl.trimmed_eq, ih]
  · -- no line counts, so all of them come out empty, whatever their width
    generalize (margin ls).length = width, (margin ls').length = width'
    have hblank : ∀ l ∈ ls, l.all isIndent = true := by simpa using hmore
    clear hmore
    induction h with
    | nil => rfl
    | @cons l l' ls ls' hl _ ih =>
      obtain ⟨hfirst, hrest⟩ := List.forall_mem_cons.mp hblank
      rw [List.map_cons, List.map_cons, ih hrest, trimmed, trimmed, hl.all_eq, if_pos hfirst,
        if_pos hfirst]

/-- Lines are what they are without their margin, moved by it. -/
theorem forall₂_shifted_withoutMargin (ls : List Text) :
    List.Forall₂ (Shifted (margin ls)) (withoutMargin ls) ls := by
  rw [withoutMargin, List.forall₂_map_left_iff, List.forall₂_same]
  intro l hl
  rw [trimmed]
  split
  · rename_i hblank
    exact hblank
  · rename_i hmore
    obtain ⟨rest, hrest⟩ :=
      (isPrefix_margin hl (Bool.eq_false_iff.mpr hmore)).trans (List.takeWhile_prefix isIndent)
    have hnot : ¬ rest.all isIndent = true := by
      rw [← hrest, List.all_append, all_indent_margin, Bool.true_and] at hmore
      exact hmore
    rw [← hrest, List.drop_left, Shifted, if_neg hnot]

/-- **Removing the margin once is enough.** -/
theorem dedent_dedent (t : Text) : dedent (dedent t) = dedent t := by
  have hlines (t : Text) : dedent t = join ['\n'] (withoutMargin (lines t)) := rfl
  rw [hlines, lines_dedent, hlines t]
  exact congrArg (join ['\n'])
    (withoutMargin_eq_of_shifted (all_indent_margin _) (forall₂_shifted_withoutMargin _)).symm

theorem mem_dedent_iff {c : Char} (hc : isIndent c = false) (hnewline : c ≠ '\n') (t : Text) :
    c ∈ dedent t ↔ c ∈ t := by
  rw [← exists_mem_lines_iff hnewline, ← exists_mem_lines_iff hnewline]
  exact exists_mem_iff_of_forall₂ hc ((forall₂_lines_dedent t).imp fun _ _ hab => hab.eqUpToIndent)

/-- A single line loses all its indentation. -/
theorem dedent_of_not_mem {l : Text} (h : '\n' ∉ l) : dedent l = l.dropWhile isIndent := by
  have hdedent : dedent l = trimmed (margin [l]).length l := by
    show join ['\n'] (withoutMargin (lines l)) = _
    rw [lines, split_of_not_mem h]
    exact List.append_nil _
  rw [hdedent, trimmed, margin, List.filterMap_cons, indent?]
  split
  · rename_i hblank
    exact (List.dropWhile_eq_nil_iff.mpr (List.all_eq_true.mp hblank)).symm
  · have hsplit := List.takeWhile_append_dropWhile (p := isIndent) (l := l)
    calc l.drop (l.takeWhile isIndent).length
        = (l.takeWhile isIndent ++ l.dropWhile isIndent).drop (l.takeWhile isIndent).length := by
          rw [hsplit]
      _ = l.dropWhile isIndent := List.drop_left

end Stencil.Text
