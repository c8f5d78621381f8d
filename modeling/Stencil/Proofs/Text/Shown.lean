import Stencil.Text.Lines

/-!
# Shown lines

More characters end a shown line than an authored one. A text is therefore shown in at least as many
lines as it is written in, and in just as many exactly if every line that ends in it ends in a newline.

* `lineEnds_eq_count_iff`: texts that are shown in their authored lines.
* `openLine_eq_of_endInNewlines`: the last line of such a text.
* `exists_getElem?_shownLines`: the shown line on which a mark stands.
-/

namespace Stencil.Text

/-- How many shown lines end in a text. -/
def lineEnds : Text → Nat
  | [] => 0
  | '\r' :: '\n' :: t => lineEnds t + 1
  | c :: t => if isLineEnd c then lineEnds t + 1 else lineEnds t

/-- Do all shown lines that end in a text end in a newline? -/
def endInNewlines : Text → Bool
  | [] => true
  | '\r' :: '\n' :: t => endInNewlines t
  | c :: t => (c == '\n' || ! isLineEnd c) && endInNewlines t

/-- What stands behind the last line end of a text. -/
def openLine : Text → Text
  | [] => []
  | c :: t => if isLineEnd c || t.any isLineEnd then openLine t else c :: t

theorem ne_newline_of_isLineEnd {c : Char} (h : ¬ isLineEnd c = true) : c ≠ '\n' := by
  rintro rfl
  exact h rfl

/-! ## Numbers of lines -/

/-- Every newline ends a shown line. -/
theorem count_le_lineEnds (t : Text) : t.count '\n' ≤ lineEnds t := by
  fun_induction lineEnds t with
  | case1 => exact Nat.le_refl 0
  | case2 t ih => simpa using ih
  | case3 c t _ hc ih =>
    rw [List.count_cons]
    split <;> omega
  | case4 c t _ hc ih => rwa [List.count_cons_of_ne (ne_newline_of_isLineEnd hc)]

/-- **A text is shown in its authored lines** exactly if all its lines end in newlines. -/
theorem lineEnds_eq_count_iff (t : Text) : lineEnds t = t.count '\n' ↔ endInNewlines t = true := by
  fun_induction lineEnds t with
  | case1 => simp [endInNewlines]
  | case2 t ih => simpa [endInNewlines] using ih
  | case3 c t hpair hc ih =>
    have hle := count_le_lineEnds t
    rw [endInNewlines, hc]
    · by_cases hnewline : c = '\n'
      · simp [hnewline, ih]
      · have hmore : ¬ lineEnds t + 1 = t.count '\n' := by omega
        simp [List.count_cons_of_ne hnewline, hnewline, hmore]
    · exact hpair
  | case4 c t hpair hc ih =>
    have hnot : isLineEnd c = false := by simpa using hc
    rw [endInNewlines, hnot, List.count_cons_of_ne (ne_newline_of_isLineEnd hc), ih]
    · simp
    · exact hpair

theorem lineEnds_eq_zero_iff (t : Text) : lineEnds t = 0 ↔ t.any isLineEnd = false := by
  fun_induction lineEnds t with
  | case1 => simp
  | case2 t ih => simp [show isLineEnd '\n' = true from rfl]
  | case3 c t _ hc ih => simp [hc]
  | case4 c t _ hc ih => simp [hc, ih]

/-! ## The line that is open -/

theorem openLine_of_isLineEnd {c : Char} (h : isLineEnd c = true) (t : Text) :
    openLine (c :: t) = openLine t := by
  simp [openLine, h]

theorem openLine_eq_self {t : Text} (h : t.any isLineEnd = false) : openLine t = t := by
  cases t with
  | nil => rfl
  | cons c t =>
    rw [List.any_cons] at h
    rw [openLine, h]
    rfl

theorem openLine_append {c : Char} (hc : isLineEnd c = true) {l : Text}
    (hl : l.any isLineEnd = false) (before : Text) : openLine (before ++ c :: l) = l := by
  induction before with
  | nil => rw [List.nil_append, openLine_of_isLineEnd hc, openLine_eq_self hl]
  | cons d before ih => simpa [openLine, hc] using ih

theorem endInNewlines_tail {c : Char} {t : Text} (h : endInNewlines (c :: t) = true) :
    endInNewlines t = true := by
  unfold endInNewlines at h
  split at h
  case h_1 heq => cases heq
  case h_2 rest heq =>
    cases heq
    unfold endInNewlines
    simpa using h
  case h_3 heq =>
    cases heq
    exact (Bool.and_eq_true_iff.mp h).2

theorem endInNewlines_append {before t : Text} (h : endInNewlines (before ++ t) = true) :
    endInNewlines t = true := by
  induction before with
  | nil => exact h
  | cons c before ih => exact ih (endInNewlines_tail h)

/-- A text in which all lines would end in newlines, but none does, is a single line. -/
theorem any_isLineEnd_of_not_mem {t : Text} (h : endInNewlines t = true) (hnot : '\n' ∉ t) :
    t.any isLineEnd = false := by
  fun_induction endInNewlines t with
  | case1 => rfl
  | case2 t ih => simp at hnot
  | case3 c t _ ih =>
    obtain ⟨hc, ht⟩ := Bool.and_eq_true_iff.mp h
    have hne : c ≠ '\n' := fun heq => hnot (heq ▸ List.mem_cons_self)
    have hrest := ih ht fun hmem => hnot (List.mem_cons_of_mem c hmem)
    simpa [hne, hrest] using hc

/-- The last line of a text that is shown in its authored lines. -/
theorem openLine_eq_of_endInNewlines {t line : Text} (h : endInNewlines t = true)
    (hnot : '\n' ∉ line) (ht : t = line ∨ ∃ earlier, t = earlier ++ '\n' :: line) :
    openLine t = line := by
  rcases ht with rfl | ⟨earlier, rfl⟩
  · exact openLine_eq_self (any_isLineEnd_of_not_mem h hnot)
  · have hline := endInNewlines_tail (endInNewlines_append h)
    exact openLine_append rfl (any_isLineEnd_of_not_mem hline hnot) earlier

/-! ## Shown lines and marks -/

theorem shownLines_cons_of_isLineEnd {c : Char} (hc : isLineEnd c = true) {t : Text}
    (hpair : ∀ rest, c = '\r' → t = '\n' :: rest → False) :
    shownLines (c :: t) = [] :: shownLines t := by
  rw [shownLines, if_pos hc]
  exact hpair

/-- A character that ends no line lengthens the line behind it. -/
theorem shownLines_cons_of_not {c : Char} (hc : isLineEnd c = false) (t : Text) :
    shownLines (c :: t) =
      match shownLines t with
      | [] => [[c]]
      | line :: rest => (c :: line) :: rest := by
  have hpair : ∀ rest, c = '\r' → t = '\n' :: rest → False := by
    rintro rest rfl -
    cases hc
  have hnot : ¬ isLineEnd c = true := by simp [hc]
  exact (shownLines.eq_3 c t hpair).trans (if_neg hnot)

theorem exists_shownLines_append {mark : Text} (hne : mark ≠ [])
    (hmark : mark.any isLineEnd = false) (after : Text) :
    ∃ more rest, shownLines (mark ++ after) = (mark ++ more) :: rest := by
  induction mark with
  | nil => exact absurd rfl hne
  | cons c mark ih =>
    obtain ⟨hc, hrest⟩ := Bool.or_eq_false_iff.mp hmark
    rw [List.cons_append, shownLines_cons_of_not hc]
    cases mark with
    | nil =>
      cases hafter : shownLines after with
      | nil => exact ⟨[], [], by simp [hafter]⟩
      | cons line rest => exact ⟨line, rest, by simp [hafter]⟩
    | cons d mark =>
      obtain ⟨more, rest, hlines⟩ := ih (by simp) hrest
      exact ⟨more, rest, by rw [hlines]; rfl⟩

/-- **A mark stands on the shown line that is open in front of it.** -/
theorem exists_getElem?_shownLines (before : Text) {mark : Text} (hne : mark ≠ [])
    (hmark : mark.any isLineEnd = false) (after : Text) :
    ∃ more, (shownLines (before ++ (mark ++ after)))[lineEnds before]? =
      some (openLine before ++ (mark ++ more)) := by
  fun_induction lineEnds before with
  | case1 =>
    obtain ⟨more, rest, hlines⟩ := exists_shownLines_append hne hmark after
    exact ⟨more, by simp [hlines, openLine]⟩
  | case2 t ih =>
    obtain ⟨more, hline⟩ := ih
    refine ⟨more, ?_⟩
    rw [openLine_of_isLineEnd rfl, openLine_of_isLineEnd rfl, ← hline]
    rfl
  | case3 c t hpair hc ih =>
    obtain ⟨more, hline⟩ := ih
    refine ⟨more, ?_⟩
    rw [List.cons_append, shownLines_cons_of_isLineEnd hc, openLine_of_isLineEnd hc, ← hline]
    · rfl
    · -- no newline follows the carriage return, neither in the text nor behind it
      intro rest hreturn hnewline
      cases t with
      | nil =>
        obtain ⟨d, mark, rfl⟩ := List.exists_cons_of_ne_nil hne
        cases hnewline
        simp [show isLineEnd '\n' = true from rfl] at hmark
      | cons d t =>
        cases hnewline
        exact hpair t hreturn rfl
  | case4 c t _ hc ih =>
    obtain ⟨more, hline⟩ := ih
    have hnot : isLineEnd c = false := by simpa using hc
    refine ⟨more, ?_⟩
    rw [List.cons_append, shownLines_cons_of_not hnot, openLine, hnot, Bool.false_or]
    cases hlines : shownLines (t ++ (mark ++ after)) with
    | nil => simp [hlines] at hline
    | cons first rest =>
      rw [hlines] at hline
      cases hends : lineEnds t with
      | zero =>
        have hopen := (lineEnds_eq_zero_iff t).mp hends
        rw [hends, openLine_eq_self hopen] at hline
        obtain rfl : first = t ++ (mark ++ more) := Option.some.inj hline
        simp [hopen]
      | succ n =>
        have hclosed : t.any isLineEnd = true := by
          rw [← Bool.not_eq_false, ← lineEnds_eq_zero_iff]
          omega
        rw [hends] at hline
        rw [if_pos hclosed]
        exact hline

end Stencil.Text
