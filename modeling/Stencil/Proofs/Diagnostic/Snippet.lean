import Stencil.Proofs.Scan.Spelling
import Stencil.Proofs.Text.Shown

/-!
# Snippets of scan errors

The error of a scan is placed by authored lines, and its snippet is cut from shown lines. There is
always a shown line with the number of the error. It is the line on which the opener stands exactly if
all lines in front of the opener end in newlines; then the caret stands under the opener.

* `Snippet.ofSource?_of_getElem?`: the snippet of a single line.
* `scan_error_shows_opener`: what the snippet of a scan error shows.
* `not_scan_error_shows_opener_of_form_feed`: a line that ends in front of the opener.
-/

namespace Stencil

/-- A line that is shown without the lines around it. -/
theorem Snippet.ofSource?_of_getElem? {source l : Text} {n : Nat}
    (h : (Text.shownLines source)[n]? = some l) (column : Option Int) :
    Snippet.ofSource? source (n + 1 : Nat) 0 column =
      some ⟨[(((n + 1 : Nat) : Int), l)], (n + 1 : Nat), column⟩ := by
  obtain ⟨hn, rfl⟩ := List.getElem?_eq_some_iff.mp h
  have hline : (0 : Int) < (n + 1 : Nat) ∧ ((n + 1 : Nat) : Int) ≤ (Text.shownLines source).length :=
    ⟨by omega, by omega⟩
  have hfirst : (max 0 (((n + 1 : Nat) : Int) - 1 - 0)).toNat = n := by omega
  have hlast : (min ((Text.shownLines source).length : Int) ((n + 1 : Nat) + 0)).toNat = n + 1 := by
    omega
  unfold ofSource?
  dsimp only
  rw [if_pos hline, hfirst, hlast, List.drop_take, Nat.add_sub_cancel_left,
    List.drop_eq_getElem_cons (by simpa using hn)]
  simp

/-- A line of a text that is known is shown, and there is no line 0. -/
theorem snippet_of_known {t : Text} (ht : t ≠ []) (line context : Int) (column : Option Int) :
    (do
      let source ← (some t).filter (! ·.isEmpty)
      let line ← (some line).filter (· != 0)
      Snippet.ofSource? source line context column) =
        Snippet.ofSource? t line context column := by
  have hsome : (some t).filter (! ·.isEmpty) = some t :=
    Option.filter_eq_some_iff.mpr ⟨rfl, by simpa using ht⟩
  rw [hsome]
  by_cases hline : line = 0
  · subst hline
    rfl
  · rw [Option.filter_eq_some_iff.mpr ⟨rfl, by simpa using hline⟩]
    rfl

/-! ## Errors of the scan -/

theorem Opener.mark_ne_nil (o : Opener) : o.mark ≠ [] := by cases o <;> decide

theorem Opener.any_isLineEnd_mark (o : Opener) : o.mark.any Text.isLineEnd = false := by
  cases o <;> decide

/-- **The snippet of a scan error** is the one shown line that has the number of the error. If all
lines in front of the opener end in newlines, the opener stands in that line under the caret. In any
case the opener stands in the shown line that is open where it begins; that is a later line than the one
of the snippet exactly if a line in front of the opener ends without a newline. -/
theorem scan_error_shows_opener {t filename : Text} {e : CompileError}
    (h : scanTemplate t filename = .error e) :
    ∃ (o : Opener) (before : Text) (line column : Nat) (shown : Text),
      FirstUnclosed t o before ∧ e.code = some o.errorCode ∧
      e.line = some (line : Int) ∧ e.column = some (column : Int) ∧
      e.snippet = some ⟨[((line : Int), shown)], line, some (column : Int)⟩ ∧
      (Text.endInNewlines before = true → o.mark <+: shown.drop column) ∧
      (∃ more, (Text.shownLines t)[Text.lineEnds before]? =
        some (Text.openLine before ++ (o.mark ++ more))) ∧
      line ≤ Text.lineEnds before + 1 ∧
      (line = Text.lineEnds before + 1 ↔ Text.endInNewlines before = true) := by
  obtain ⟨⟨o, before⟩, hpieces, rfl⟩ := exists_unclosed_of_scanTemplate h
  have hfirst := firstUnclosed_of_pieces hpieces
  obtain ⟨⟨ahead, after, hreads, hopen, -⟩, -⟩ := id hfirst
  have ht : t = before ++ (o.mark ++ after) := by rw [hreads.eq_append, hopen.1]
  obtain ⟨more, hmore⟩ :=
    Text.exists_getElem?_shownLines before o.mark_ne_nil o.any_isLineEnd_mark after
  rw [← ht] at hmore
  -- there are at least as many shown lines as authored ones in front of the opener
  have hcount := Text.count_le_lineEnds before
  have hshown : before.count '\n' < (Text.shownLines t).length :=
    hcount.trans_lt (List.getElem?_eq_some_iff.mp hmore).1
  obtain ⟨shown, hline⟩ : ∃ shown, (Text.shownLines t)[before.count '\n']? = some shown :=
    ⟨_, List.getElem?_eq_getElem hshown⟩
  have hne : t ≠ [] := by
    rw [ht]
    simp [o.mark_ne_nil]
  have hnumber : ((1 + before.count '\n' : Nat) : Int) = (before.count '\n' + 1 : Nat) := by omega
  refine ⟨o, before, 1 + before.count '\n', (Place.after before).column, shown, hfirst, rfl, rfl,
    rfl, ?_, fun hends => ?_, ⟨more, hmore⟩, by omega, ?_⟩
  · rw [hnumber, ← Snippet.ofSource?_of_getElem? hline]
    exact (snippet_of_known hne _ 0 _).trans (by rw [← hnumber]; rfl)
  · -- the line of the opener is the authored one, so the opener stands in its column
    have hequal := (Text.lineEnds_eq_count_iff before).mpr hends
    obtain ⟨last, hlast, hcolumn⟩ := exists_endsInLine before
    rw [hequal, hline, Text.openLine_eq_of_endInNewlines hends hlast.1 hlast.2] at hmore
    obtain rfl := Option.some.inj hmore
    rw [hcolumn, List.drop_left]
    exact List.prefix_append _ _
  · rw [← Text.lineEnds_eq_count_iff]
    omega

/-- An opener on the second line, with a line end of another kind behind it. -/
theorem scan_error_shows_opener_on_second_line :
    let t : Text := "a\r\nb <?py x\x0cy".toList
    ∃ e shown, scanTemplate t "t".toList = .error e ∧ e.line = some 2 ∧ e.column = some 2 ∧
      e.snippet = some ⟨[(2, shown)], 2, some 2⟩ ∧ "<?py".toList <+: shown.drop 2 := by
  intro t
  have hpieces : pieces t = .error ⟨.code, "a\r\nb ".toList⟩ := by decide +kernel
  have hscan := scanTemplate_of_pieces_error hpieces "t".toList
  obtain ⟨o, before, line, column, shown, hfirst, -, hline, hcolumn, hsnippet, hshows, -⟩ :=
    scan_error_shows_opener hscan
  obtain ⟨rfl, rfl⟩ := hfirst.unique (firstUnclosed_of_pieces hpieces)
  obtain rfl : line = 2 := Int.ofNat_inj.mp (Option.some.inj hline).symm
  obtain rfl : column = 2 := Int.ofNat_inj.mp (Option.some.inj hcolumn).symm
  exact ⟨_, shown, hscan, hline, hcolumn, hsnippet, hshows rfl⟩

/-- **A line that ends without a newline in front of the opener** is shown in the place of the line of
the opener: here it ends in a form feed and is empty. -/
theorem not_scan_error_shows_opener_of_form_feed :
    let t : Text := "\x0c<?py x".toList
    ∃ e, scanTemplate t "t".toList = .error e ∧ FirstUnclosed t .code "\x0c".toList ∧
      e.line = some 1 ∧ e.column = some 1 ∧ e.snippet = some ⟨[(1, [])], 1, some 1⟩ ∧
      ¬ "<?py".toList <+: ([] : Text).drop 1 := by
  intro t
  have hpieces : pieces t = .error ⟨.code, "\x0c".toList⟩ := by decide +kernel
  exact ⟨_, scanTemplate_of_pieces_error hpieces _, firstUnclosed_of_pieces hpieces, rfl, rfl,
    by decide, by decide⟩

end Stencil
