import Stencil.Diagnostic.Snippet
import Stencil.Proofs.Text.Lines
import Stencil.Proofs.Text.Shown

/-!
# Carets

A snippet shows the line of an error behind its number and the caret in a row of its own. The number
takes three characters or more, the edge in front of the caret is always the same: the caret row
follows the row of the line at once, but the caret stands to the left of the column it is meant for,
by two characters, and by one more for each digit of the line number beyond the third.

* `Snippet.lines_format`: the rows of a snippet.
* `Snippet.exists_ofSource?`: the line of the error between the lines around it.
* `caret_stands_left_of_column`: the line of the error and its caret.
* `not_caret_stands_under_column_of_brace`: a caret that points at another character.
-/

namespace Stencil

/-! ## Rows -/

theorem Text.newline_not_mem_of_mem_shownLines {t l : Text} (h : l ∈ Text.shownLines t) :
    '\n' ∉ l := by
  fun_induction Text.shownLines t generalizing l with
  | case1 => simp at h
  | case2 t ih =>
    rcases List.mem_cons.mp h with rfl | h
    · simp
    · exact ih h
  | case3 c t _ _ ih =>
    rcases List.mem_cons.mp h with rfl | h
    · simp
    · exact ih h
  | case4 c t _ hc hlines ih =>
    obtain rfl := List.mem_singleton.mp h
    simpa using Ne.symm (Text.ne_newline_of_isLineEnd hc)
  | case5 c t _ hc line rest hlines ih =>
    have hne := Ne.symm (Text.ne_newline_of_isLineEnd hc)
    rcases List.mem_cons.mp h with rfl | h
    · simpa [hne] using ih (hlines ▸ List.mem_cons_self)
    · exact ih (hlines ▸ List.mem_cons_of_mem line h)

namespace Snippet

/-- What stands in front of a numbered line. -/
def gutter (line : Int) (isError : Bool) : Text :=
  (if isError then '>' else ' ') :: Text.padLeft 3 (Text.ofInt line) ++ " | ".toList

theorem sourceLine_false (line : Int) (content : Text) (isError : Bool) :
    sourceLine false line content isError = gutter line isError ++ content := by
  cases isError <;> rfl

theorem length_gutter (line : Int) (isError : Bool) :
    (gutter line isError).length = max 3 (Text.ofInt line).length + 4 := by
  simp [gutter, Text.padLeft]
  omega

theorem newline_not_mem_gutter (line : Int) (isError : Bool) : '\n' ∉ gutter line isError := by
  have hline := Text.not_mem_ofInt (c := '\n') (by decide) (by decide) line
  cases isError <;> simp [gutter, Text.padLeft, hline]

/-- The row of the caret: the edge takes three characters, and a blank follows. -/
theorem caretRow_false (column : Nat) :
    caretRow false column = "   |".toList ++ List.replicate (column + 1) ' ' ++ ['^'] := by
  simp [caretRow, paintDim, paint, List.replicate_succ]

theorem idxOf_caretRow (column : Nat) : (caretRow false column).idxOf '^' = column + 5 := by
  have hnot : '^' ∉ "   |".toList ++ List.replicate (column + 1) ' ' := by simp
  rw [caretRow_false, List.idxOf_append_of_notMem hnot]
  simp

theorem newline_not_mem_caretRow (column : Int) : '\n' ∉ caretRow false column := by
  simp [caretRow, paintDim, paint]

theorem newline_not_mem_rows {s : Snippet} {line : Int × Text} (hline : '\n' ∉ line.2) :
    ∀ row ∈ s.rows false line, '\n' ∉ row := by
  have hsource : '\n' ∉ sourceLine false line.1 line.2 (line.1 == s.errorLine) := by
    rw [sourceLine_false, List.mem_append, not_or]
    exact ⟨newline_not_mem_gutter _ _, hline⟩
  intro row hrow
  rw [rows] at hrow
  rcases List.mem_cons.mp hrow with rfl | hrow
  · exact hsource
  · cases hcolumn : s.column with
    | none => simp [hcolumn] at hrow
    | some column =>
      have hcaret : row = caretRow false column := by
        simp only [hcolumn] at hrow
        split at hrow
        · exact List.mem_singleton.mp hrow
        · cases hrow
      exact hcaret ▸ newline_not_mem_caretRow column

/-- **The rows of a snippet**: those of its lines between two rules. -/
theorem lines_format {s : Snippet} (h : ∀ line ∈ s.lines, '\n' ∉ line.2) :
    Text.lines (s.format false) =
      "   |".toList :: s.lines.flatMap (s.rows false) ++ ["   |".toList] := by
  refine Text.lines_join (by simp) fun row hrow => ?_
  rcases List.mem_append.mp hrow with hrow | hrow
  · rcases List.mem_cons.mp hrow with rfl | hrow
    · decide
    · obtain ⟨line, hline, hrow⟩ := List.mem_flatMap.mp hrow
      exact newline_not_mem_rows (h line hline) row hrow
  · obtain rfl := List.mem_singleton.mp hrow
    decide

/-! ## The line of the error -/

/-- The lines of a source with their numbers. -/
def numbered (source : Text) : List (Int × Text) :=
  (Text.shownLines source).zipIdx.map fun entry => ((entry.2 + 1 : Int), entry.1)

theorem getElem?_numbered (source : Text) (i : Nat) :
    (numbered source)[i]? = (Text.shownLines source)[i]?.map fun l => (((i + 1 : Nat) : Int), l) := by
  rw [numbered, List.getElem?_map, List.getElem?_zipIdx, Option.map_map, Nat.zero_add]
  rfl

/-- A line with another place has another number, and its text from the source. -/
theorem of_mem_around {source : Text} {n : Nat} {line : Int × Text}
    (h : line ∈ (numbered source).take n ∨ line ∈ (numbered source).drop (n + 1)) :
    line.1 ≠ ((n + 1 : Nat) : Int) ∧ line.2 ∈ Text.shownLines source := by
  obtain ⟨i, hi, hat⟩ : ∃ i ≠ n, (numbered source)[i]? = some line := by
    rcases h with h | h
    · obtain ⟨i, hi⟩ := List.mem_iff_getElem?.mp h
      rw [List.getElem?_take] at hi
      split at hi
      · exact ⟨i, by omega, hi⟩
      · cases hi
    · obtain ⟨i, hi⟩ := List.mem_iff_getElem?.mp h
      rw [List.getElem?_drop] at hi
      exact ⟨n + 1 + i, by omega, hi⟩
  rw [getElem?_numbered] at hat
  obtain ⟨l, hl, rfl⟩ := Option.map_eq_some_iff.mp hat
  exact ⟨fun heq => hi (by omega), List.mem_of_getElem? hl⟩

/-- What is shown is cut in front of the line of the error and behind it. -/
theorem drop_take_numbered {source : Text} {n first : Nat} {line : Int × Text}
    (hline : (numbered source)[n]? = some line) (hfirst : first ≤ n) (more : Nat) :
    ((numbered source).take (n + 1 + more)).drop first =
      ((numbered source).take n).drop first ++
        line :: ((numbered source).drop (n + 1)).take more := by
  obtain ⟨hn, hget⟩ := List.getElem?_eq_some_iff.mp hline
  have hbehind : first ≤ ((numbered source).take n).length := by
    rw [List.length_take]
    omega
  rw [List.take_add, List.take_succ_eq_append_getElem hn, hget, List.append_assoc,
    List.drop_append_of_le_length hbehind]
  rfl

/-- **The line of the error stands between the lines around it**: as many in front of it as asked for
if the source has them, and none with its number. -/
theorem exists_ofSource? {source content : Text} {n : Nat}
    (hline : (Text.shownLines source)[n]? = some content) (context : Nat) (column : Option Int) :
    ∃ before after : List (Int × Text),
      ofSource? source (n + 1 : Nat) context column =
        some ⟨before ++ (((n + 1 : Nat) : Int), content) :: after, (n + 1 : Nat), column⟩ ∧
      before.length = min n context ∧
      ∀ line ∈ before ++ after,
        line.1 ≠ ((n + 1 : Nat) : Int) ∧ line.2 ∈ Text.shownLines source := by
  obtain ⟨hn, -⟩ := List.getElem?_eq_some_iff.mp hline
  have hlen : (numbered source).length = (Text.shownLines source).length := by simp [numbered]
  have hline' : (numbered source)[n]? = some (((n + 1 : Nat) : Int), content) := by
    rw [getElem?_numbered, hline]
    rfl
  have hinside : (0 : Int) < (n + 1 : Nat) ∧
      ((n + 1 : Nat) : Int) ≤ (Text.shownLines source).length := ⟨by omega, by omega⟩
  have hfirst : (max 0 (((n + 1 : Nat) : Int) - 1 - context)).toNat = n - context := by omega
  obtain ⟨more, hlast⟩ : ∃ more,
      (min ((Text.shownLines source).length : Int) ((n + 1 : Nat) + context)).toNat =
        n + 1 + more :=
    ⟨_, (Nat.add_sub_of_le (by omega)).symm⟩
  refine ⟨((numbered source).take n).drop (n - context), ((numbered source).drop (n + 1)).take more,
    ?_, ?_, fun line hmem => of_mem_around ?_⟩
  · unfold ofSource?
    dsimp only
    rw [if_pos hinside, hfirst, hlast, ← numbered,
      drop_take_numbered hline' (Nat.sub_le n context)]
  · rw [List.length_drop, List.length_take]
    omega
  · exact (List.mem_append.mp hmem).imp List.mem_of_mem_drop List.mem_of_mem_take

/-- Lines with other numbers are shown in a row each, without the mark of an error. -/
theorem flatMap_rows_of_ne {s : Snippet} {ls : List (Int × Text)}
    (h : ∀ line ∈ ls, line.1 ≠ s.errorLine) :
    ls.flatMap (s.rows false) = ls.map fun line => gutter line.1 false ++ line.2 := by
  induction ls with
  | nil => rfl
  | cons line ls ih =>
    have hother : (line.1 == s.errorLine) = false := by simpa using h line List.mem_cons_self
    have hrest := ih fun l hl => h l (List.mem_cons_of_mem line hl)
    have hrows : s.rows false line = [gutter line.1 false ++ line.2] := by
      rw [rows, hother, sourceLine_false]
      cases s.column <;> rfl
    rw [List.flatMap_cons, hrows, hrest]
    rfl

/-- The line of the error is shown in two rows. -/
theorem rows_self {s : Snippet} {column : Int} (h : s.column = some column) (content : Text) :
    s.rows false (s.errorLine, content) =
      [gutter s.errorLine true ++ content, caretRow false column] := by
  simp [rows, h, sourceLine_false]

end Snippet

/-! ## Carets -/

/-- **The caret stands to the left of its column.** The row of the line in error is the one row that
begins with `>`, and the row of the caret follows it. It is a caret row with `column` blanks behind its
edge, but the edge takes five characters where the number of the line takes seven or more: the caret
is always left of the column, by two characters if the number has at most three digits, and by one
more for each further digit. -/
theorem caret_stands_left_of_column {source content : Text} {n : Nat}
    (hline : (Text.shownLines source)[n]? = some content) (context column : Nat) :
    ∃ (s : Snippet) (before after : List Text) (caret : Text),
      Snippet.ofSource? source (n + 1 : Nat) context (some (column : Int)) = some s ∧
      Text.lines (s.format false) =
        before ++ (Snippet.gutter (n + 1 : Nat) true ++ content) :: caret :: after ∧
      before.length = min n context + 1 ∧
      (∀ row ∈ before ++ caret :: after, row.head? ≠ some '>') ∧
      caret = "   |".toList ++ List.replicate (column + 1) ' ' ++ ['^'] ∧
      (Snippet.gutter (n + 1 : Nat) true).length + column =
        caret.idxOf '^' + (max 3 (Text.ofNat (n + 1)).length - 1) := by
  obtain ⟨before, after, hsnippet, hlength, hothers⟩ :=
    Snippet.exists_ofSource? hline context (some (column : Int))
  have hbefore : ∀ line ∈ before, line.1 ≠ ((n + 1 : Nat) : Int) := fun line hmem =>
    (hothers line (List.mem_append_left after hmem)).1
  have hafter : ∀ line ∈ after, line.1 ≠ ((n + 1 : Nat) : Int) := fun line hmem =>
    (hothers line (List.mem_append_right before hmem)).1
  refine ⟨_, "   |".toList :: before.map (fun line => Snippet.gutter line.1 false ++ line.2),
    after.map (fun line => Snippet.gutter line.1 false ++ line.2) ++ ["   |".toList],
    Snippet.caretRow false column, hsnippet, ?_, by simpa using hlength, ?_,
    Snippet.caretRow_false column, ?_⟩
  · rw [Snippet.lines_format]
    · simp only [List.flatMap_append, List.flatMap_cons]
      rw [Snippet.flatMap_rows_of_ne hbefore, Snippet.flatMap_rows_of_ne hafter,
        Snippet.rows_self rfl]
      simp
    · intro line hmem
      refine Text.newline_not_mem_of_mem_shownLines (t := source) ?_
      rcases List.mem_append.mp hmem with hmem | hmem
      · exact (hothers line (List.mem_append_left after hmem)).2
      · rcases List.mem_cons.mp hmem with rfl | hmem
        · exact List.mem_of_getElem? hline
        · exact (hothers line (List.mem_append_right before hmem)).2
  · have hplain : ∀ ls : List (Int × Text),
        ∀ row ∈ ls.map (fun line => Snippet.gutter line.1 false ++ line.2), row.head? ≠ some '>' := by
      intro ls row hrow
      obtain ⟨line, -, rfl⟩ := List.mem_map.mp hrow
      simp [Snippet.gutter]
    intro row hmem
    simp only [List.cons_append, List.mem_cons, List.mem_append, List.not_mem_nil, or_false] at hmem
    obtain rfl | hmem | rfl | hmem | rfl := hmem
    · decide
    · exact hplain before row hmem
    · simp [Snippet.caretRow_false]
    · exact hplain after row hmem
    · decide
  · rw [Snippet.idxOf_caretRow, Snippet.length_gutter]
    have hdigits : Text.ofInt ((n + 1 : Nat) : Int) = Text.ofNat (n + 1) := rfl
    rw [hdigits]
    omega

/-- The caret of a column on the second line of three. -/
theorem caret_stands_left_of_column_on_second_line :
    ∃ (s : Snippet) (before after : List Text) (caret : Text),
      Snippet.ofSource? "a\nbc \x7b$x\nd".toList 2 1 (some 3) = some s ∧
      Text.lines (s.format false) = before ++ ">  2 | bc \x7b$x".toList :: caret :: after ∧
      before.length = 2 ∧ caret = "   |    ^".toList := by
  have hline : (Text.shownLines "a\nbc \x7b$x\nd".toList)[1]? = some "bc \x7b$x".toList := by decide
  obtain ⟨s, before, after, caret, hsnippet, hlines, hlength, -, hcaret, -⟩ :=
    caret_stands_left_of_column hline 1 3
  exact ⟨s, before, after, caret, hsnippet, hlines, hlength, hcaret⟩

/-- **A caret for a brace that points at a blank**: the brace is the fifth character of its line and
the twelfth of its row, the caret is the tenth. -/
theorem not_caret_stands_under_column_of_brace :
    let source : Text := "abc \x7b$x".toList
    source[4]? = some '\x7b' ∧
    ∃ s, Snippet.ofSource? source 1 0 (some 4) = some s ∧
      Text.lines (s.format false) =
        ["   |", ">  1 | abc \x7b$x", "   |     ^", "   |"].map String.toList ∧
      ">  1 | abc \x7b$x".toList.idxOf '\x7b' = 11 ∧ "   |     ^".toList.idxOf '^' = 9 := by
  refine ⟨by decide, _, rfl, ?_, ?_, ?_⟩ <;> decide

end Stencil
