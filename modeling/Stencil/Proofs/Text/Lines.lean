import Mathlib.Data.List.Forall2
import Mathlib.Data.List.TakeWhile
import Mathlib.Data.List.DropRight
import Stencil.Text.Blank
import Stencil.Text.Indent

/-!
# Lines of a text

The authored lines of a text are what stands between its newlines. Joining lines and cutting the
result gives them back, and removing the common indentation of a text changes nothing in its lines
but their indentation.

A carriage return in front of a newline belongs to the end of the line. In a text whose carriage
returns all stand there, reading with `unixNewlines` leaves the lines where they are.

* `lines_join`: lines that are joined.
* `exists_line_of_part`: lines of a part of a text.
* `lines_unixNewlines`: lines without their carriage returns.
* `forall₂_lines_dedent`: lines without their common indentation.
-/

namespace Stencil.Text

/-! ## Cutting -/

theorem length_split (sep : Char) (t : Text) : (split sep t).length = t.count sep + 1 := by
  induction t with
  | nil => rfl
  | cons c t ih =>
    rw [split]
    by_cases hc : c = sep
    · rw [if_pos hc, List.length_cons, ih, hc, List.count_cons_self]
    · rw [if_neg hc, List.count_cons_of_ne hc, ← ih]
      cases hs : split sep t with
      | nil =>
        rw [hs] at ih
        simp at ih
      | cons field fields => rfl

theorem split_ne_nil (sep : Char) (t : Text) : split sep t ≠ [] := by
  intro hnil
  have hlength := length_split sep t
  simp [hnil] at hlength

theorem split_cons_self (sep : Char) (t : Text) : split sep (sep :: t) = [] :: split sep t := by
  rw [split, if_pos rfl]

theorem split_cons_of_ne {sep c : Char} (hc : c ≠ sep) {t field : Text} {fields : List Text}
    (h : split sep t = field :: fields) : split sep (c :: t) = (c :: field) :: fields := by
  rw [split, if_neg hc, h]

/-- A text without the separator is a field by itself. -/
theorem split_of_not_mem {sep : Char} {t : Text} (h : sep ∉ t) : split sep t = [t] := by
  induction t with
  | nil => rfl
  | cons c t ih =>
    have hc : c ≠ sep := fun heq => h (heq ▸ List.mem_cons_self)
    have ht : sep ∉ t := fun hmem => h (List.mem_cons_of_mem c hmem)
    exact split_cons_of_ne hc (ih ht)

/-- Cutting takes off one field after the other. -/
theorem split_append {sep : Char} {t : Text} (h : sep ∉ t) (rest : Text) :
    split sep (t ++ sep :: rest) = t :: split sep rest := by
  induction t with
  | nil => exact split_cons_self sep rest
  | cons c t ih =>
    have hc : c ≠ sep := fun heq => h (heq ▸ List.mem_cons_self)
    have ht : sep ∉ t := fun hmem => h (List.mem_cons_of_mem c hmem)
    exact split_cons_of_ne hc (ih ht)

/-- The lines of two texts with a newline between them. -/
theorem lines_append_newline (s t : Text) : lines (s ++ '\n' :: t) = lines s ++ lines t := by
  induction s with
  | nil => exact split_cons_self '\n' t
  | cons c s ih =>
    by_cases hc : c = '\n'
    · subst hc
      rw [List.cons_append, lines, split_cons_self, lines, split_cons_self]
      exact congrArg ([] :: ·) ih
    · obtain ⟨first, fields, hs⟩ := List.exists_cons_of_ne_nil (split_ne_nil '\n' s)
      have hline : lines (c :: s) = (c :: first) :: fields := split_cons_of_ne hc hs
      have hboth : lines (s ++ '\n' :: t) = first :: (fields ++ lines t) := by
        rw [ih, lines, hs]
        rfl
      rw [hline]
      exact split_cons_of_ne hc hboth

theorem not_mem_of_mem_split {sep : Char} {t field : Text} (h : field ∈ split sep t) :
    sep ∉ field := by
  induction t generalizing field with
  | nil =>
    obtain rfl : field = [] := by simpa [split] using h
    simp
  | cons c t ih =>
    by_cases hc : c = sep
    · subst hc
      rw [split_cons_self] at h
      rcases List.mem_cons.mp h with rfl | h
      · simp
      · exact ih h
    · obtain ⟨first, fields, hs⟩ := List.exists_cons_of_ne_nil (split_ne_nil sep t)
      rw [split_cons_of_ne hc hs] at h
      rw [hs] at ih
      rcases List.mem_cons.mp h with rfl | h
      · have hfirst := ih List.mem_cons_self
        simpa using ⟨Ne.symm hc, hfirst⟩
      · exact ih (List.mem_cons_of_mem first h)

theorem not_mem_of_mem_lines {t l : Text} (h : l ∈ lines t) : '\n' ∉ l :=
  not_mem_of_mem_split h

/-- The characters of a text other than newlines are those of its lines. -/
theorem exists_mem_lines_iff {c : Char} (hc : c ≠ '\n') (t : Text) :
    (∃ l ∈ lines t, c ∈ l) ↔ c ∈ t := by
  rw [lines]
  induction t with
  | nil => simp [split]
  | cons d t ih =>
    by_cases hd : d = '\n'
    · subst hd
      rw [split_cons_self, List.mem_cons, or_iff_right hc, ← ih]
      simp
    · obtain ⟨first, fields, hs⟩ := List.exists_cons_of_ne_nil (split_ne_nil '\n' t)
      rw [hs] at ih
      rw [split_cons_of_ne hd hs, List.mem_cons, ← ih]
      simp [or_assoc]

theorem length_lines (t : Text) : (lines t).length = t.count '\n' + 1 :=
  length_split '\n' t

theorem join_cons_cons (l l' : Text) (ls : List Text) :
    join ['\n'] (l :: l' :: ls) = l ++ '\n' :: join ['\n'] (l' :: ls) := by
  rw [join, List.intercalate_cons_cons, List.append_assoc]
  rfl

/-- Joined lines come apart again. -/
theorem lines_join {ls : List Text} (hne : ls ≠ []) (h : ∀ l ∈ ls, '\n' ∉ l) :
    lines (join ['\n'] ls) = ls := by
  induction ls with
  | nil => exact absurd rfl hne
  | cons l ls ih =>
    have hl : '\n' ∉ l := h l List.mem_cons_self
    cases ls with
    | nil => simpa [join, List.intercalate, lines] using split_of_not_mem hl
    | cons l' ls =>
      have hrest := ih (by simp) fun x hx => h x (List.mem_cons_of_mem l hx)
      rw [join_cons_cons, lines, split_append hl]
      exact congrArg (l :: ·) hrest

/-- The lines of a text that is cut at its first newline. -/
theorem lines_of_cutAt? {t first rest : Text} (h : cutAt? ['\n'] t = some (first, rest)) :
    lines t = first :: lines rest := by
  induction t generalizing first with
  | nil => simp [cutAt?] at h
  | cons c t ih =>
    by_cases hc : '\n' = c
    · subst hc
      obtain ⟨rfl, rfl⟩ : [] = first ∧ t = rest := by simpa [cutAt?, after?] using h
      exact split_cons_self '\n' t
    · have hmap : (cutAt? ['\n'] t).map (fun cut => (c :: cut.1, cut.2)) = some (first, rest) := by
        simpa [cutAt?, after?, hc] using h
      obtain ⟨⟨before, after⟩, hcut, hpair⟩ := Option.map_eq_some_iff.mp hmap
      obtain ⟨rfl, rfl⟩ : c :: before = first ∧ after = rest := by simpa using hpair
      exact split_cons_of_ne (Ne.symm hc) (ih hcut)

theorem cutAt?_newline {first : Text} (hfirst : '\n' ∉ first) (rest : Text) :
    cutAt? ['\n'] (first ++ '\n' :: rest) = some (first, rest) := by
  induction first with
  | nil => rfl
  | cons c first ih =>
    rw [List.mem_cons, not_or] at hfirst
    have hafter : after? ['\n'] (c :: (first ++ '\n' :: rest)) = none := if_neg hfirst.1
    rw [List.cons_append, cutAt?, hafter]
    dsimp only
    rw [ih hfirst.2]
    rfl

theorem lines_of_cutAt?_eq_none {t : Text} (h : cutAt? ['\n'] t = none) : lines t = [t] := by
  induction t with
  | nil => rfl
  | cons c t ih =>
    by_cases hc : '\n' = c
    · subst hc
      simp [cutAt?, after?] at h
    · have hnone : cutAt? ['\n'] t = none := by simpa [cutAt?, after?, hc] using h
      exact split_cons_of_ne (Ne.symm hc) (ih hnone)

/-- A number is written in digits, behind a minus sign if it is below zero. -/
theorem not_mem_ofInt {c : Char} (hdigit : c.isDigit = false) (hminus : c ≠ '-') (n : Int) :
    c ∉ ofInt n := by
  have hnat (n : Nat) : c ∉ ofNat n := fun hmem => by
    have hc := Nat.isDigit_of_mem_toDigits (by decide) (by decide) hmem
    rw [hdigit] at hc
    cases hc
  cases n with
  | ofNat n => exact hnat n
  | negSucc n =>
    rw [ofInt, List.mem_cons, not_or]
    exact ⟨hminus, hnat (n + 1)⟩

/-! ## Lines of a part -/

theorem exists_line_append {t l : Text} {k : Nat} (h : (lines t)[k]? = some l) (rest : Text) :
    ∃ whole, (lines (t ++ rest))[k]? = some whole ∧ l <+: whole := by
  induction t generalizing k l with
  | nil =>
    obtain ⟨first, fields, hrest⟩ := List.exists_cons_of_ne_nil (split_ne_nil '\n' rest)
    obtain ⟨rfl, rfl⟩ : k = 0 ∧ l = [] := by
      cases k <;> simp_all [lines, split]
    exact ⟨first, by rw [lines, List.nil_append, hrest]; rfl, List.nil_prefix⟩
  | cons c t ih =>
    by_cases hc : c = '\n'
    · subst hc
      rw [lines, split_cons_self] at h
      rw [List.cons_append, lines, split_cons_self]
      cases k with
      | zero =>
        obtain rfl : [] = l := Option.some.inj h
        exact ⟨[], rfl, List.prefix_rfl⟩
      | succ k => exact ih h
    · obtain ⟨field, fields, ht⟩ := List.exists_cons_of_ne_nil (split_ne_nil '\n' t)
      obtain ⟨whole, wholes, hwhole⟩ :=
        List.exists_cons_of_ne_nil (split_ne_nil '\n' (t ++ rest))
      rw [lines, split_cons_of_ne hc ht] at h
      rw [lines, ht, lines, hwhole] at ih
      rw [List.cons_append, lines, split_cons_of_ne hc hwhole]
      cases k with
      | zero =>
        obtain ⟨_, hfirst, hstart⟩ := ih (k := 0) rfl
        cases hfirst
        cases h
        exact ⟨c :: whole, rfl, (List.prefix_cons_inj c).mpr hstart⟩
      | succ k => exact ih (k := k + 1) h

theorem exists_line_of_append (before : Text) {t l : Text} {k : Nat} (h : (lines t)[k]? = some l) :
    ∃ whole, (lines (before ++ t))[before.count '\n' + k]? = some whole ∧ l <:+ whole := by
  induction before with
  | nil => exact ⟨l, by simpa using h, List.suffix_rfl⟩
  | cons c before ih =>
    obtain ⟨whole, hwhole, hend⟩ := ih
    by_cases hc : c = '\n'
    · subst hc
      refine ⟨whole, ?_, hend⟩
      rw [List.cons_append, lines, split_cons_self, List.count_cons_self, Nat.add_right_comm]
      exact hwhole
    · obtain ⟨field, fields, hfields⟩ :=
        List.exists_cons_of_ne_nil (split_ne_nil '\n' (before ++ t))
      rw [lines, hfields] at hwhole
      rw [List.cons_append, lines, split_cons_of_ne hc hfields, List.count_cons_of_ne hc]
      cases hline : before.count '\n' + k with
      | zero =>
        rw [hline] at hwhole
        cases hwhole
        exact ⟨c :: whole, rfl, hend.trans (List.suffix_cons c whole)⟩
      | succ n =>
        rw [hline] at hwhole
        exact ⟨whole, hwhole, hend⟩

/-- The lines of a part of a text stand on the lines of the text, counted on from the newlines in
front of the part. -/
theorem exists_line_of_part (before : Text) {t l : Text} {k : Nat} (h : (lines t)[k]? = some l)
    (rest : Text) :
    ∃ whole, (lines (before ++ t ++ rest))[before.count '\n' + k]? = some whole ∧
      l <:+: whole := by
  obtain ⟨inner, hinner, hstart⟩ := exists_line_append h rest
  obtain ⟨whole, hwhole, hend⟩ := exists_line_of_append before hinner
  exact ⟨whole, by rw [List.append_assoc]; exact hwhole, hstart.isInfix.trans hend.isInfix⟩

/-! ## Indentation -/

/-- The lines differ at most in how they are indented. -/
def EqUpToIndent (a b : Text) : Prop := a.dropWhile isIndent = b.dropWhile isIndent

theorem mem_iff_of_eqUpToIndent {c : Char} (hc : isIndent c = false) {a b : Text}
    (h : EqUpToIndent a b) : c ∈ a ↔ c ∈ b := by
  have hdrop (l : Text) : c ∈ l ↔ c ∈ l.dropWhile isIndent := by
    induction l with
    | nil => rfl
    | cons d l ih =>
      by_cases hd : isIndent d = true
      · have hne : c ≠ d := by
          rintro rfl
          simp [hc] at hd
        rw [List.dropWhile_cons_of_pos hd, ← ih, List.mem_cons, or_iff_right hne]
      · rw [List.dropWhile_cons_of_neg hd]
  rw [hdrop a, hdrop b, h]

theorem exists_mem_iff_of_forall₂ {c : Char} (hc : isIndent c = false) {as bs : List Text}
    (h : List.Forall₂ EqUpToIndent as bs) : (∃ l ∈ as, c ∈ l) ↔ ∃ l ∈ bs, c ∈ l := by
  induction h with
  | nil => simp
  | cons hab _ ih => simp [mem_iff_of_eqUpToIndent hc hab, ih]

theorem isBlank_of_isIndent {c : Char} (h : isIndent c = true) : isBlank c = true := by
  simp only [isIndent, Bool.or_eq_true, beq_iff_eq] at h
  rcases h with rfl | rfl <;> rfl

theorem isPrefix_commonStart (s t : Text) : commonStart s t <+: s ∧ commonStart s t <+: t := by
  fun_induction commonStart s t with
  | case1 s c t ih =>
    exact ⟨(List.prefix_cons_inj c).mpr ih.1, (List.prefix_cons_inj c).mpr ih.2⟩
  | case2 => exact ⟨List.nil_prefix, List.nil_prefix⟩
  | case3 => exact ⟨List.nil_prefix, List.nil_prefix⟩

theorem isPrefix_foldl_commonStart (first : Text) (rest : List Text) :
    rest.foldl commonStart first <+: first ∧ ∀ t ∈ rest, rest.foldl commonStart first <+: t := by
  induction rest generalizing first with
  | nil => exact ⟨List.prefix_rfl, by simp⟩
  | cons s rest ih =>
    obtain ⟨hfirst, hrest⟩ := ih (commonStart first s)
    obtain ⟨hleft, hright⟩ := isPrefix_commonStart first s
    refine ⟨hfirst.trans hleft, fun t ht => ?_⟩
    rcases List.mem_cons.mp ht with rfl | ht
    · exact hfirst.trans hright
    · exact hrest t ht

/-- Lines with more than indentation begin with the common indentation. -/
theorem isPrefix_margin {ls : List Text} {l : Text} (hl : l ∈ ls) (h : l.all isIndent = false) :
    margin ls <+: l.takeWhile isIndent := by
  have hmem : l.takeWhile isIndent ∈ ls.filterMap indent? :=
    List.mem_filterMap.mpr ⟨l, hl, by simp [indent?, h]⟩
  rw [margin]
  cases hs : ls.filterMap indent? with
  | nil => exact List.nil_prefix
  | cons first rest =>
    rw [hs] at hmem
    obtain ⟨hfirst, hrest⟩ := isPrefix_foldl_commonStart first rest
    rcases List.mem_cons.mp hmem with heq | hmem
    · exact heq ▸ hfirst
    · exact hrest _ hmem

/-- What a line is without an indentation of the given width. -/
def trimmed (width : Nat) (l : Text) : Text := if l.all isIndent then [] else l.drop width

/-- The lines without their common indentation. -/
def withoutMargin (ls : List Text) : List Text := ls.map (trimmed (margin ls).length)

theorem lines_dedent (t : Text) : lines (dedent t) = withoutMargin (lines t) := by
  have hdedent : dedent t = join ['\n'] (withoutMargin (lines t)) := rfl
  rw [hdedent]
  refine lines_join (by simpa [withoutMargin, lines] using split_ne_nil '\n' t) ?_
  intro l hl
  obtain ⟨line, hline, rfl⟩ := List.mem_map.mp hl
  have hnot := not_mem_of_mem_lines hline
  rw [trimmed]
  split
  · simp
  · exact fun hmem => hnot (List.mem_of_mem_drop hmem)

/-- The first line is the second one without some or all of its indentation. -/
def Unindented (a b : Text) : Prop :=
  ∃ indent : Text, indent.all isIndent = true ∧ b = indent ++ a

theorem Unindented.eqUpToIndent {a b : Text} (h : Unindented a b) : EqUpToIndent a b := by
  obtain ⟨indent, hindent, rfl⟩ := h
  exact (List.dropWhile_append_of_pos (List.all_eq_true.mp hindent)).symm

theorem unindented_refl (l : Text) : Unindented l l := ⟨[], rfl, rfl⟩

theorem unindented_dropWhile (l : Text) : Unindented (l.dropWhile isIndent) l :=
  ⟨l.takeWhile isIndent, List.all_takeWhile, List.takeWhile_append_dropWhile.symm⟩

theorem unindented_nil {l : Text} (h : l.all isIndent = true) : Unindented [] l :=
  ⟨l, h, l.append_nil.symm⟩

theorem unindented_drop {l : Text} {width : Nat} (h : width ≤ (l.takeWhile isIndent).length) :
    Unindented (l.drop width) l := by
  refine ⟨l.take width, List.all_eq_true.mpr fun c hc => ?_, (List.take_append_drop width l).symm⟩
  have hstart : l.take width <+: l.takeWhile isIndent :=
    List.prefix_of_prefix_length_le (List.take_prefix width l) (List.takeWhile_prefix isIndent)
      ((List.length_take_le width l).trans h)
  exact List.mem_takeWhile_imp (hstart.subset hc)

/-- Removing the common indentation changes nothing in the lines but their indentation. -/
theorem forall₂_lines_dedent (t : Text) : List.Forall₂ Unindented (lines (dedent t)) (lines t) := by
  rw [lines_dedent, withoutMargin, List.forall₂_map_left_iff, List.forall₂_same]
  intro l hl
  rw [trimmed]
  cases hindent : l.all isIndent with
  | true => simpa using unindented_nil hindent
  | false => simpa using unindented_drop (isPrefix_margin hl hindent).length_le

/-! ## Carriage returns -/

/-- Does every carriage return stand in front of a newline? -/
def returnsPaired : Text → Bool
  | [] => true
  | '\r' :: '\n' :: t => returnsPaired t
  | c :: t => c != '\r' && returnsPaired t

/-- A line without the carriage return at its end. -/
def dropReturn : Text → Text
  | [] => []
  | ['\r'] => []
  | c :: t => c :: dropReturn t

theorem dropReturn_cons {c : Char} {l : Text} (h : c ≠ '\r' ∨ l ≠ []) :
    dropReturn (c :: l) = c :: dropReturn l := by
  rw [dropReturn]
  rintro rfl rfl
  simp at h

theorem dropWhile_dropReturn (l : Text) :
    (dropReturn l).dropWhile isIndent = dropReturn (l.dropWhile isIndent) := by
  fun_induction dropReturn l with
  | case1 => rfl
  | case2 => rfl
  | case3 c l hne ih =>
    by_cases hc : isIndent c = true
    · rw [List.dropWhile_cons_of_pos hc, List.dropWhile_cons_of_pos hc, ih]
    · rw [List.dropWhile_cons_of_neg hc, List.dropWhile_cons_of_neg hc, dropReturn]
      exact hne

theorem EqUpToIndent.dropReturn {a b : Text} (h : EqUpToIndent a b) :
    EqUpToIndent (dropReturn a) (dropReturn b) := by
  rw [EqUpToIndent, dropWhile_dropReturn, dropWhile_dropReturn, h]

/-- A text without carriage returns is read as it is. -/
theorem unixNewlines_of_not_mem {t : Text} (h : '\r' ∉ t) : unixNewlines t = t := by
  induction t with
  | nil => rfl
  | cons c t ih =>
    have hc : c ≠ '\r' := fun heq => h (heq ▸ List.mem_cons_self)
    rw [unixNewlines, if_neg hc, ih fun hmem => h (List.mem_cons_of_mem c hmem)]
    exact fun _ heq _ => hc heq

/-- Reading with `unixNewlines` takes the carriage returns from the ends of the lines. -/
theorem lines_unixNewlines {t : Text} (h : returnsPaired t = true) :
    lines (unixNewlines t) = (lines t).map dropReturn := by
  fun_induction returnsPaired t with
  | case1 => rfl
  | case2 t ih =>
    have hlines : lines ('\r' :: '\n' :: t) = ['\r'] :: lines t :=
      split_cons_of_ne (by decide) (split_cons_self '\n' t)
    rw [unixNewlines, hlines, List.map_cons, ← ih h]
    exact split_cons_self '\n' _
  | case3 c t hne ih =>
    obtain ⟨hc, ht⟩ : c ≠ '\r' ∧ returnsPaired t = true := by simpa using h
    rw [unixNewlines, if_neg hc]
    · by_cases hnewline : c = '\n'
      · subst hnewline
        rw [lines, split_cons_self, lines, split_cons_self, List.map_cons]
        exact congrArg ([] :: ·) (ih ht)
      · obtain ⟨l, ls, hs⟩ := List.exists_cons_of_ne_nil (split_ne_nil '\n' t)
        have hrest := ih ht
        rw [lines, lines, hs, List.map_cons] at hrest
        rw [lines, lines, split_cons_of_ne hnewline hs, split_cons_of_ne hnewline hrest,
          List.map_cons, dropReturn_cons (.inl hc)]
    · exact hne

/-- A carriage return stands in a line at its end only, and in the last line nowhere. -/
def LinesPaired : List Text → Prop
  | [] => True
  | [l] => '\r' ∉ l
  | l :: ls => '\r' ∉ dropReturn l ∧ LinesPaired ls

theorem exists_eq_newline_cons {t l : Text} {ls : List Text} (h : lines t = [] :: l :: ls) :
    ∃ rest, t = '\n' :: rest := by
  cases t with
  | nil => simp [lines, split] at h
  | cons c t =>
    by_cases hc : c = '\n'
    · exact ⟨t, by rw [hc]⟩
    · obtain ⟨first, fields, hs⟩ := List.exists_cons_of_ne_nil (split_ne_nil '\n' t)
      rw [lines, split_cons_of_ne hc hs] at h
      simp at h

theorem returnsPaired_iff_linesPaired (t : Text) :
    returnsPaired t = true ↔ LinesPaired (lines t) := by
  fun_induction returnsPaired t with
  | case1 => simp [lines, split, LinesPaired]
  | case2 t ih =>
    have hlines : lines ('\r' :: '\n' :: t) = ['\r'] :: lines t :=
      split_cons_of_ne (by decide) (split_cons_self '\n' t)
    obtain ⟨l, ls, hs⟩ := List.exists_cons_of_ne_nil (split_ne_nil '\n' t)
    rw [lines] at ih
    rw [hlines, ih, lines, hs]
    simp [LinesPaired, dropReturn]
  | case3 c t hne ih =>
    obtain ⟨l, ls, hs⟩ := List.exists_cons_of_ne_nil (split_ne_nil '\n' t)
    rw [Bool.and_eq_true, ih, lines, lines, hs]
    by_cases hnewline : c = '\n'
    · subst hnewline
      rw [split_cons_self, hs]
      simp [LinesPaired, dropReturn]
    · rw [split_cons_of_ne hnewline hs]
      cases ls with
      | nil =>
        show (c != '\r') = true ∧ '\r' ∉ l ↔ '\r' ∉ c :: l
        rw [List.mem_cons, not_or, bne_iff_ne, ne_comm]
      | cons l' ls =>
        -- a carriage return at the end of a line stands in front of a newline
        have hcons : c ≠ '\r' ∨ l ≠ [] := by
          by_contra hboth
          obtain ⟨rfl, rfl⟩ : c = '\r' ∧ l = [] := by simpa using hboth
          obtain ⟨rest, rfl⟩ := exists_eq_newline_cons hs
          exact hne rest rfl rfl
        show (c != '\r') = true ∧ '\r' ∉ dropReturn l ∧ LinesPaired (l' :: ls) ↔
          '\r' ∉ dropReturn (c :: l) ∧ LinesPaired (l' :: ls)
        rw [dropReturn_cons hcons, List.mem_cons, not_or, bne_iff_ne, ne_comm, and_assoc]

theorem LinesPaired.tail {l : Text} {ls : List Text} (h : LinesPaired (l :: ls)) :
    LinesPaired ls := by
  cases ls with
  | nil => trivial
  | cons l' ls => exact h.2

theorem LinesPaired.drop {ls : List Text} (h : LinesPaired ls) (n : Nat) :
    LinesPaired (ls.drop n) := by
  induction n generalizing ls with
  | zero => exact h
  | succ n ih =>
    cases ls with
    | nil => trivial
    | cons l ls => exact ih h.tail

theorem LinesPaired.of_forall₂ {as bs : List Text} (h : List.Forall₂ EqUpToIndent as bs)
    (hbs : LinesPaired bs) : LinesPaired as := by
  induction h with
  | nil => trivial
  | @cons a b as bs hab hrest ih =>
    cases hrest with
    | nil => exact fun hmem => hbs ((mem_iff_of_eqUpToIndent rfl hab).mp hmem)
    | cons _ _ =>
      exact ⟨fun hmem => hbs.1 ((mem_iff_of_eqUpToIndent rfl hab.dropReturn).mp hmem), ih hbs.2⟩

end Stencil.Text
