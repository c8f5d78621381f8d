import Stencil.Proofs.Code.Dedented
import Stencil.Proofs.Text.Margin

/-!
# Code without its margin

Code is read in lines that end at newlines and carriage returns, while a margin is taken from lines
that end at newlines alone. Where lines have a margin, the lines that are read lose it if they are
the same lines: if carriage returns only stand in front of newlines.

* `codeLines_append`: the lines of code, one after the other.
* `dedented_dedent`: code that loses its margin.
-/

namespace Stencil.Code

open Text (dropReturn isIndent join lines margin trimmed unixNewlines)

/-! ## Lines as they are read -/

/-- Texts are read one after the other, unless a carriage return and a newline are torn apart. -/
theorem unixNewlines_append {s t : Text} (h : ¬ ['\r'] <:+ s ∨ t.head? ≠ some '\n') :
    unixNewlines (s ++ t) = unixNewlines s ++ unixNewlines t := by
  fun_induction unixNewlines s with
  | case1 => rfl
  | case2 s ih =>
    exact congrArg ('\n' :: ·) (ih (h.imp_left (mt (·.trans ⟨['\r', '\n'], rfl⟩))))
  | case3 c s hne ih =>
    rw [List.cons_append, unixNewlines, ih (h.imp_left (mt (·.trans (List.suffix_cons c s))))]
    · rfl
    · intro rest hc hrest
      cases s with
      | nil =>
        refine h.elim (fun hend => hend ?_) fun hhead => hhead ?_
        · exact hc ▸ List.suffix_rfl
        · rw [← List.nil_append t, hrest]
          rfl
      | cons d s => exact hne s hc (by rw [(List.cons.inj hrest).1])

/-- Within a line, every carriage return is read as a newline. -/
theorem unixNewlines_eq_map {l : Text} (hl : '\n' ∉ l) :
    unixNewlines l = l.map fun c => if c = '\r' then '\n' else c := by
  induction l with
  | nil => rfl
  | cons c l ih =>
    rw [List.mem_cons, not_or] at hl
    rw [unixNewlines, ih hl.2, List.map_cons]
    rintro t - rfl
    exact hl.2 List.mem_cons_self

theorem isSuffix_of_unixNewlines {l : Text} (hl : '\n' ∉ l) {c : Char} (hc : c ≠ '\n')
    (h : [c] <:+ unixNewlines l) : [c] <:+ l := by
  obtain ⟨start, hstart⟩ := h
  have hlast : (unixNewlines l).getLast? = some c := by rw [← hstart, List.getLast?_concat]
  rw [unixNewlines_eq_map hl, List.getLast?_map] at hlast
  obtain ⟨d, hd, hread⟩ := Option.map_eq_some_iff.mp hlast
  split at hread
  · exact absurd hread.symm hc
  · obtain ⟨start, rfl⟩ := List.getLast?_eq_some_iff.mp hd
    exact hread ▸ List.suffix_append start [d]

theorem dropReturn_cases (l : Text) :
    l = dropReturn l ++ ['\r'] ∨ (¬ ['\r'] <:+ l ∧ dropReturn l = l) := by
  fun_induction dropReturn l with
  | case1 => exact .inr ⟨by simp, rfl⟩
  | case2 => exact .inl rfl
  | case3 c l hne ih =>
    obtain hend | ⟨hnot, hsame⟩ := ih
    · exact .inl (congrArg (c :: ·) hend)
    · refine .inr ⟨fun hend => ?_, by rw [hsame]⟩
      obtain heq | hend := List.suffix_cons_iff.mp hend
      · obtain ⟨rfl, rfl⟩ := List.cons.inj heq
        exact hne rfl rfl
      · exact hnot hend

/-- The carriage return at the end of a line belongs to the end of the line. -/
theorem unixNewlines_line (l : Text) :
    unixNewlines (l ++ ['\n']) = unixNewlines (dropReturn l) ++ ['\n'] := by
  obtain hend | ⟨hnot, hsame⟩ := dropReturn_cases l
  · calc unixNewlines (l ++ ['\n'])
        = unixNewlines (dropReturn l ++ ['\r'] ++ ['\n']) := by rw [← hend]
      _ = unixNewlines (dropReturn l ++ ['\r', '\n']) := by rw [List.append_assoc]; rfl
      _ = unixNewlines (dropReturn l) ++ ['\n'] := unixNewlines_append (.inr (by simp))
  · rw [hsame]
    exact unixNewlines_append (.inl hnot)

/-- When a line more is read, or the last one is ended. -/
theorem codeLines_eq (t : Text) : codeLines t =
    if ['\r', '\n'] <:+ t ∨ (unixNewlines t).getLast? ≠ some '\n' then unixNewlines t ++ ['\n']
    else unixNewlines t := by
  rw [codeLines]
  refine if_congr ?_ rfl rfl
  rw [Bool.or_eq_true, List.isPrefixOf_iff_prefix, decide_eq_true_iff]
  exact or_congr_left (List.reverse_prefix : ['\r', '\n'].reverse <+: t.reverse ↔ _)

theorem codeLines_line {l : Text} (hl : '\n' ∉ l) : codeLines l = unixNewlines (l ++ ['\n']) := by
  have hpair : ¬ ['\r', '\n'] <:+ l := fun hend => hl (hend.subset (by simp))
  rw [codeLines_eq, unixNewlines_line]
  obtain hend | ⟨hnot, hsame⟩ := dropReturn_cases l
  · have hread : unixNewlines l = unixNewlines (dropReturn l) ++ ['\n'] := by
      conv_lhs => rw [hend]
      exact unixNewlines_append (.inr (by simp))
    rw [if_neg (by simp [hpair, hread]), hread]
  · have hlast : (unixNewlines l).getLast? ≠ some '\n' := by
      rw [unixNewlines_eq_map hl, List.getLast?_map]
      intro hmap
      obtain ⟨c, hc, hread⟩ := Option.map_eq_some_iff.mp hmap
      split at hread
      · rename_i hreturn
        obtain ⟨start, rfl⟩ := List.getLast?_eq_some_iff.mp (hreturn ▸ hc)
        exact hnot (List.suffix_append start ['\r'])
      · exact hl (hread ▸ List.mem_of_getLast? hc)
    rw [if_pos (.inr hlast), hsame]

theorem codeLines_append (l : Text) {t : Text} (ht : t ≠ []) :
    codeLines (l ++ '\n' :: t) = unixNewlines (l ++ ['\n']) ++ codeLines t := by
  have hread : unixNewlines (l ++ '\n' :: t) = unixNewlines (l ++ ['\n']) ++ unixNewlines t := by
    rw [List.append_cons]
    refine unixNewlines_append (.inl ?_)
    rintro ⟨start, hstart⟩
    simpa using congrArg List.getLast? hstart
  have hnil : unixNewlines t ≠ [] := by
    fun_cases unixNewlines t with
    | case1 => exact absurd rfl ht
    | case2 => simp
    | case3 => simp
  have hpair : ['\r', '\n'] <:+ l ++ '\n' :: t ↔ ['\r', '\n'] <:+ t := by
    clear hread
    induction l with
    | nil => simp [List.suffix_cons_iff]
    | cons c l ih =>
      rw [List.cons_append, List.suffix_cons_iff, ih, or_iff_right]
      intro heq
      have hlength := congrArg List.length heq
      have hpos := List.length_pos_iff.mpr ht
      simp at hlength
      omega
  rw [codeLines_eq, codeLines_eq, hread, List.getLast?_append_of_ne_nil _ hnil]
  simp only [hpair]
  split
  · rw [List.append_assoc]
  · rfl

theorem codeLines_ended (l : Text) :
    codeLines (l ++ ['\n']) =
      unixNewlines (l ++ ['\n']) ++ if ['\r'] <:+ l then ['\n'] else [] := by
  have hpair : ['\r', '\n'] <:+ l ++ ['\n'] ↔ ['\r'] <:+ l :=
    (List.suffix_append_self_iff : ['\r'] ++ ['\n'] <:+ l ++ ['\n'] ↔ _)
  rw [codeLines_eq]
  simp only [hpair]
  by_cases hend : ['\r'] <:+ l
  · rw [if_pos (.inl hend), if_pos hend]
  · rw [if_neg (by simp [hend, unixNewlines_line]), if_neg hend, List.append_nil]

/-! ## Lines that lose their margin -/

/-- Without a margin, any text may stand in front. -/
theorem Dedented.prepend {joined : Bool} {a b : Text} (h : Dedented [] joined a b) (joined' : Bool)
    (v : Text) (hv : ['\\'] <:+ v → joined = true) :
    Dedented [] joined' (v ++ '\n' :: a) (v ++ '\n' :: b) := by
  by_cases hmem : '\n' ∈ v
  · obtain ⟨u, w, rfl, hu⟩ := List.eq_append_cons_of_mem hmem
    have hbelow := h.prepend true w fun hback =>
      hv (hback.trans ((List.suffix_cons _ w).trans (List.suffix_append u _)))
    simpa using Dedented.line u hu (fun _ => rfl) (.inl rfl) hbelow
  · exact .line v hmem hv (.inl rfl) h
termination_by v.length
decreasing_by
  rename_i heq
  subst heq
  simp
  omega

theorem unixNewlines_of_all_indent {w : Text} (hw : w.all isIndent = true) (t : Text) :
    unixNewlines (w ++ t) = w ++ unixNewlines t := by
  have hnot : '\r' ∉ w := fun hmem => absurd (List.all_eq_true.mp hw _ hmem) (by decide)
  rw [unixNewlines_append (.inl fun hend => hnot (hend.subset List.mem_cons_self)),
    Text.unixNewlines_of_not_mem hnot]

theorem isSuffix_trimmed (width : Nat) (l : Text) : trimmed width l <:+ l := by
  rw [trimmed]
  split
  · exact List.nil_suffix
  · exact List.drop_suffix width l

/-- A line that is one line to read, and does not begin anew behind its indentation: carriage
returns and form feeds stand elsewhere. -/
def PlainLine (l : Text) : Prop :=
  '\r' ∉ dropReturn l ∧ (l.dropWhile isIndent).head? ≠ some '\x0c'

instance (l : Text) : Decidable (PlainLine l) := inferInstanceAs (Decidable (_ ∧ _))

theorem head?_dropReturn_ne {l : Text} {c : Char} (h : l.head? ≠ some c) :
    (dropReturn l).head? ≠ some c := by
  fun_cases dropReturn l with
  | case1 => exact h
  | case2 => simp
  | case3 d l => exact h

theorem dropReturn_subset (l : Text) : dropReturn l ⊆ l := by
  obtain hend | ⟨-, hsame⟩ := dropReturn_cases l
  · conv_rhs => rw [hend]
    exact List.subset_append_left _ _
  · rw [hsame]
    exact List.Subset.refl l

section

variable {margin : Text} (hindent : margin.all isIndent = true)

include hindent

/-- A line in front of lines that lose their margin. -/
theorem dedented_line {l : Text} (hl : '\n' ∉ l) (hmargin : l.all isIndent = false → margin <+: l)
    (hplain : margin = [] ∨ PlainLine l) {a b : Text} (h : Dedented margin false a b)
    (hback : ['\\'] <:+ unixNewlines (dropReturn (trimmed margin.length l)) →
      Dedented margin true a b) (joined : Bool) :
    Dedented margin joined (unixNewlines (l ++ ['\n']) ++ a)
      (unixNewlines (trimmed margin.length l ++ ['\n']) ++ b) := by
  by_cases hblank : l.all isIndent = true
  · rw [trimmed, if_pos hblank, unixNewlines_of_all_indent hblank, List.append_assoc]
    exact .blank l hblank h
  · obtain ⟨v, rfl⟩ := hmargin (Bool.eq_false_iff.mpr hblank)
    rw [trimmed, if_neg hblank, List.drop_left] at hback ⊢
    have hv : '\n' ∉ v := fun hmem => hl (List.mem_append_right margin hmem)
    obtain ⟨joined', hjoined, h⟩ : ∃ joined', (['\\'] <:+ unixNewlines (dropReturn v) →
        joined' = true) ∧ Dedented margin joined' a b := by
      by_cases hend : ['\\'] <:+ unixNewlines (dropReturn v)
      · exact ⟨true, fun _ => rfl, hback hend⟩
      · exact ⟨false, fun hback => absurd hback hend, h⟩
    rw [List.append_assoc, unixNewlines_of_all_indent hindent, unixNewlines_line]
    simp only [List.append_assoc, List.cons_append, List.nil_append]
    obtain rfl | ⟨hreturn, hform⟩ := hplain
    · exact h.prepend joined _ hjoined
    · have hsame : Text.EqUpToIndent (margin ++ v) v :=
        List.dropWhile_append_of_pos (List.all_eq_true.mp hindent)
      rw [Text.mem_iff_of_eqUpToIndent rfl hsame.dropReturn] at hreturn
      rw [hsame] at hform
      rw [Text.unixNewlines_of_not_mem hreturn] at hjoined ⊢
      refine .line _ (fun hmem => hv (dropReturn_subset v hmem)) hjoined (.inr ?_) h
      rw [Text.dropWhile_dropReturn]
      exact head?_dropReturn_ne hform

omit hindent in
/-- A line without its margin; nothing is left of a blank line. -/
theorem trimmed_cases {l : Text} (hmargin : l.all isIndent = false → margin <+: l) :
    (l.all isIndent = true ∧ trimmed margin.length l = []) ∨
      ∃ v, l = margin ++ v ∧ l.all isIndent = false ∧ trimmed margin.length l = v := by
  cases hblank : l.all isIndent with
  | true => exact .inl ⟨rfl, if_pos hblank⟩
  | false =>
    obtain ⟨v, rfl⟩ := hmargin hblank
    exact .inr ⟨v, rfl, rfl, by rw [trimmed, if_neg (by simp [hblank]), List.drop_left]⟩

theorem all_indent_of_trimmed {l : Text} (hmargin : l.all isIndent = false → margin <+: l)
    (hnil : trimmed margin.length l = []) : l.all isIndent = true := by
  obtain ⟨hblank, -⟩ | ⟨v, rfl, -, htrimmed⟩ := trimmed_cases hmargin
  · exact hblank
  · obtain rfl : v = [] := htrimmed.symm.trans hnil
    rwa [List.append_nil]

theorem isSuffix_trimmed_iff {l : Text} (hmargin : l.all isIndent = false → margin <+: l) {c : Char}
    (hc : isIndent c = false) : [c] <:+ trimmed margin.length l ↔ [c] <:+ l := by
  have hnot {w : Text} (hw : w.all isIndent = true) : ¬ [c] <:+ w := fun hend => by
    have hindent := List.all_eq_true.mp hw c (hend.subset List.mem_cons_self)
    rw [hc] at hindent
    cases hindent
  obtain ⟨hblank, htrimmed⟩ | ⟨v, rfl, hmore, htrimmed⟩ := trimmed_cases hmargin
  · rw [htrimmed]
    exact iff_of_false (hnot rfl) (hnot hblank)
  · rw [htrimmed]
    refine ⟨fun hend => hend.trans (List.suffix_append margin v), fun hend => ?_⟩
    have hne : v ≠ [] := by
      rintro rfl
      rw [List.append_nil, hindent] at hmore
      cases hmore
    obtain ⟨start, hstart⟩ := hend
    have hlast : v.getLast? = some c := by
      rw [← List.getLast?_append_of_ne_nil margin hne, ← hstart, List.getLast?_concat]
    obtain ⟨start, rfl⟩ := List.getLast?_eq_some_iff.mp hlast
    exact List.suffix_append start [c]

/-- The last line of code, if it is blank, is empty without the margin, or it is left out. -/
theorem dedented_last {l w : Text} (hl : '\n' ∉ l) (hmargin : l.all isIndent = false → margin <+: l)
    (hplain : margin = [] ∨ PlainLine l) (hw : w.all isIndent = true)
    (hend : w ≠ [] → ¬ ['\\'] <:+ l) (joined : Bool) :
    Dedented margin joined (codeLines (l ++ '\n' :: w))
      (codeLines (trimmed margin.length l ++ ['\n'])) := by
  have hread (hne : w ≠ []) :
      codeLines (l ++ '\n' :: w) = unixNewlines (l ++ ['\n']) ++ (w ++ ['\n']) := by
    have hnot : '\n' ∉ w := fun hmem => absurd (List.all_eq_true.mp hw _ hmem) (by decide)
    rw [codeLines_append l hne, codeLines_line hnot, unixNewlines_of_all_indent hw]
    rfl
  have hreturn := isSuffix_trimmed_iff hindent hmargin (by decide : isIndent '\r' = false)
  rw [codeLines_ended]
  simp only [hreturn]
  by_cases hr : ['\r'] <:+ l
  · have hsame : codeLines (l ++ '\n' :: w) = unixNewlines (l ++ ['\n']) ++ (w ++ ['\n']) := by
      by_cases hne : w = []
      · rw [hne, codeLines_ended, if_pos hr]
        rfl
      · exact hread hne
    rw [hsame, if_pos hr]
    exact dedented_line hindent hl hmargin hplain (.blank w hw (.nil false))
      (fun _ => .blank w hw (.nil false)) joined
  · rw [if_neg hr]
    by_cases hne : w = []
    · rw [hne, codeLines_ended, if_neg hr]
      exact dedented_line hindent hl hmargin hplain (.nil false) (fun _ => .nil true) joined
    · rw [hread hne]
      refine dedented_line hindent hl hmargin hplain (.last w hw) (fun hback => ?_) joined
      have htrimmed := isSuffix_trimmed margin.length l
      obtain hreturned | ⟨-, hsame⟩ := dropReturn_cases (trimmed margin.length l)
      · exact absurd (hreturn.mp ⟨_, hreturned.symm⟩) hr
      · rw [hsame] at hback
        have hlast := isSuffix_of_unixNewlines (fun hmem => hl (htrimmed.subset hmem)) (by decide)
          hback
        exact absurd (hlast.trans htrimmed) (hend hne)

/-- Lines that lose their margin, read as code. -/
theorem dedented_join {ls : List Text} (hne : ls ≠ []) (hls : ∀ l ∈ ls, '\n' ∉ l)
    (hmargin : ∀ l ∈ ls, l.all isIndent = false → margin <+: l)
    (hplain : margin = [] ∨ ∀ l ∈ ls, PlainLine l)
    (hend : ∀ w : Text, w ≠ [] → w.all isIndent = true → ¬ '\\' :: '\n' :: w <:+ join ['\n'] ls)
    (joined : Bool) :
    Dedented margin joined (codeLines (join ['\n'] ls))
      (codeLines (join ['\n'] (ls.map (trimmed margin.length)))) := by
  have hjoin (l l' : Text) (ls : List Text) :
      join ['\n'] (l :: l' :: ls) = l ++ '\n' :: join ['\n'] (l' :: ls) := by
    simp [join, List.intercalate]
  induction ls generalizing joined with
  | nil => exact absurd rfl hne
  | cons l ls ih =>
    obtain ⟨hl, hls⟩ := List.forall_mem_cons.mp hls
    obtain ⟨hlmargin, hmargin⟩ := List.forall_mem_cons.mp hmargin
    have hlplain := hplain.imp_right fun h => h l List.mem_cons_self
    replace hplain := hplain.imp_right fun h l' hl' => h l' (List.mem_cons_of_mem l hl')
    cases ls with
    | nil =>
      have htrimmed : '\n' ∉ trimmed margin.length l := fun hmem =>
        hl ((isSuffix_trimmed margin.length l).subset hmem)
      have hline := dedented_line hindent hl hlmargin hlplain (.nil false) (fun _ => .nil true)
        joined
      rw [List.append_nil, List.append_nil, ← codeLines_line hl, ← codeLines_line htrimmed] at hline
      simpa [join, List.intercalate] using hline
    | cons l' ls =>
      rw [hjoin] at hend ⊢
      rw [List.map_cons, List.map_cons, hjoin, ← List.map_cons]
      by_cases hrest : join ['\n'] ((l' :: ls).map (trimmed margin.length)) = []
      · -- the last line is blank, and there is nothing below it
        cases ls with
        | nil =>
          have hw : l'.all isIndent = true := all_indent_of_trimmed hindent
            (hmargin l' List.mem_cons_self) (by simpa [join, List.intercalate] using hrest)
          have hsingle : join ['\n'] [l'] = l' := by simp [join, List.intercalate]
          rw [hsingle] at hend ⊢
          rw [hrest]
          refine dedented_last hindent hl hlmargin hlplain hw (fun hne hback => hend l' hne hw ?_)
            joined
          obtain ⟨start, rfl⟩ := hback
          exact ⟨start, by simp⟩
        | cons l'' ls =>
          rw [List.map_cons, List.map_cons, hjoin] at hrest
          simp at hrest
      · have hmore : join ['\n'] (l' :: ls) ≠ [] := by
          intro hnil
          cases ls with
          | nil =>
            obtain rfl : l' = [] := by simpa [join, List.intercalate] using hnil
            exact hrest (by simp [join, List.intercalate, trimmed])
          | cons l'' ls =>
            rw [hjoin] at hnil
            simp at hnil
        have hbelow := ih (by simp) hls hmargin hplain fun w hne hw hlast =>
          hend w hne hw (hlast.trans ⟨l ++ ['\n'], by simp⟩)
        rw [codeLines_append _ hrest, codeLines_append _ hmore]
        exact dedented_line hindent hl hlmargin hlplain (hbelow false) (fun _ => hbelow true) joined

end

/-- **Code that loses its margin**, read line by line: behind a margin, lines must be plain, and a
last line of blanks alone must not be joined to the line before. -/
theorem dedented_dedent {t : Text} (hplain : margin (lines t) = [] ∨ ∀ l ∈ lines t, PlainLine l)
    (hend : ∀ w : Text, w ≠ [] → w.all isIndent = true → ¬ '\\' :: '\n' :: w <:+ t) :
    Dedented (margin (lines t)) false (codeLines t) (codeLines (Text.dedent t)) := by
  have hjoin : join ['\n'] (lines t) = t := Text.intercalate_split '\n' t
  have hne : lines t ≠ [] := Text.split_ne_nil '\n' t
  have h := dedented_join (Text.all_indent_margin (lines t)) hne
    (fun l hl => Text.not_mem_of_mem_lines hl)
    (fun l hl hmore => (Text.isPrefix_margin hl hmore).trans (List.takeWhile_prefix isIndent))
    hplain (by rwa [hjoin]) false
  rw [hjoin] at h
  exact h

end Stencil.Code
