import Mathlib.Data.List.Find
import Stencil.Proofs.Code.Word

/-!
# Tokens within a line

Apart from strings, a token is read within the line that it begins on: what stands on the lines
below has no say in it, and stays where it is.

* `InLine`: an answer given within a line.
* `inLine_number`, `inLine_readSymbol`: numbers and symbols.
* `exists_readToken`: tokens that are no strings.
-/

namespace Stencil.Code

/-- What was read, with the lines below put back behind the rest of the line. -/
def onLine {α : Type} (below : Text) (x : α × Text) : α × Text := (x.1, x.2 ++ '\n' :: below)

/-- What is answered with `below` on the lines below does not depend on them: the answer is an
error, or it leaves them behind the rest of the line `u`. -/
def InLine {ε α : Type} (u : Text) (answer : Text → Except ε (α × Text)) : Prop :=
  (∃ e, ∀ below, answer below = .error e) ∨
    ∃ x : α × Text, x.2 <:+ u ∧ ∀ below, answer below = .ok (onLine below x)

section

variable {ε α : Type} {u v : Text} {f g : Text → Except ε (α × Text)}

theorem InLine.congr (h : InLine u g) (heq : ∀ below, f below = g below) : InLine u f := by
  obtain rfl : f = g := funext heq
  exact h

theorem InLine.of_suffix (h : InLine v f) (hv : v <:+ u) : InLine u f := by
  obtain ⟨e, he⟩ | ⟨x, hx, hok⟩ := h
  · exact .inl ⟨e, he⟩
  · exact .inr ⟨x, hx.trans hv, hok⟩

theorem InLine.ite {p : Prop} {_ : Decidable p} (h : InLine u f) (h' : InLine u g) :
    InLine u fun below => if p then f below else g below := by
  split
  · exact h
  · exact h'

theorem inLine_error (u : Text) (e : ε) : InLine u fun _ => (.error e : Except ε (α × Text)) :=
  .inl ⟨e, fun _ => rfl⟩

theorem inLine_ok (a : α) (hv : v <:+ u) :
    InLine u fun below => (.ok (a, v ++ '\n' :: below) : Except ε (α × Text)) :=
  .inr ⟨(a, v), hv, fun _ => rfl⟩

end

/-! ## Looking ahead -/

theorem head?_append_newline (r below : Text) :
    (r ++ '\n' :: below).head? = some (r.headD '\n') := by
  cases r <;> rfl

theorem dropWhile_append_newline {p : Char → Bool} (hnewline : p '\n' = false) (r below : Text) :
    (r ++ '\n' :: below).dropWhile p = r.dropWhile p ++ '\n' :: below := by
  induction r with
  | nil => simp [hnewline]
  | cons c r ih =>
    rw [List.cons_append, List.dropWhile_cons, List.dropWhile_cons]
    split
    · exact ih
    · rfl

theorem takeWhile_append_newline {p : Char → Bool} (hnewline : p '\n' = false) (r below : Text) :
    (r ++ '\n' :: below).takeWhile p = r.takeWhile p := by
  induction r with
  | nil => simp [hnewline]
  | cons c r ih => rw [List.cons_append, List.takeWhile_cons, List.takeWhile_cons, ih]

theorem isPrefixOf_append_newline {mark : Text} (hmark : '\n' ∉ mark) (r below : Text) :
    mark.isPrefixOf (r ++ '\n' :: below) = mark.isPrefixOf r := by
  induction mark generalizing r with
  | nil => rfl
  | cons c mark ih =>
    rw [List.mem_cons, not_or] at hmark
    cases r with
    | nil =>
      have hne : (c == '\n') = false := by simpa using Ne.symm hmark.1
      show (c == '\n' && mark.isPrefixOf below) = false
      rw [hne, Bool.false_and]
    | cons d r =>
      show (c == d && mark.isPrefixOf (r ++ '\n' :: below)) = (c == d && mark.isPrefixOf r)
      rw [ih hmark.2]

theorem after?_append_newline {mark : Text} (hmark : '\n' ∉ mark) (u below : Text) :
    Text.after? mark (u ++ '\n' :: below) = (Text.after? mark u).map (· ++ '\n' :: below) := by
  induction mark generalizing u with
  | nil => rfl
  | cons c mark ih =>
    rw [List.mem_cons, not_or] at hmark
    cases u with
    | nil => exact if_neg (Ne.symm hmark.1)
    | cons d u =>
      rw [List.cons_append, Text.after?, Text.after?, ih hmark.2]
      split <;> rfl

/-! ## Numbers -/

/-- Digits are read within their line. -/
theorem exists_digitRun? (isDigit : Char → Bool) (hnewline : isDigit '\n' = false) (u : Text) :
    ∃ o : Option (Text × Text), (∀ x, o = some x → x.2 <:+ u) ∧
      ∀ below, Decimal.digitRun? isDigit (u ++ '\n' :: below) = o.map (onLine below) := by
  induction u with
  | nil =>
    refine ⟨some ([], []), by simp, fun below => ?_⟩
    rw [List.nil_append, Decimal.digitRun?, if_neg (by simp [hnewline]), if_neg (by decide)]
    rfl
  | cons c u ih =>
    obtain ⟨o, hsuffix, hrun⟩ := ih
    by_cases hc : isDigit c = true
    · refine ⟨o.map fun run => (c :: run.1, run.2), fun x hx => ?_, fun below => ?_⟩
      · obtain ⟨run, hrun, rfl⟩ := Option.map_eq_some_iff.mp hx
        exact (hsuffix run hrun).trans (List.suffix_cons c u)
      · rw [List.cons_append, Decimal.digitRun?, if_pos hc, hrun, Option.map_map, Option.map_map]
        rfl
    · by_cases hunderscore : c = '_'
      · refine ⟨if isDigit (u.headD '\n') then o else none, fun x hx => ?_, fun below => ?_⟩
        · split at hx
          · exact (hsuffix x hx).trans (List.suffix_cons c u)
          · cases hx
        · rw [List.cons_append, Decimal.digitRun?, if_neg hc, if_pos hunderscore,
            head?_append_newline, Option.any_some, hrun]
          split <;> rfl
      · refine ⟨some ([], c :: u), by simp, fun below => ?_⟩
        rw [List.cons_append, Decimal.digitRun?, if_neg hc, if_neg hunderscore]
        rfl

theorem exists_digits? (u : Text) :
    ∃ o : Option (Text × Text), (∀ x, o = some x → x.2 <:+ u) ∧
      ∀ below, Decimal.exponent?.digits? (u ++ '\n' :: below) = o.map (onLine below) := by
  obtain ⟨o, hsuffix, hrun⟩ := exists_digitRun? Char.isDigit (by decide) u
  refine ⟨if (u.headD '\n').isDigit then o else none, fun x hx => ?_, fun below => ?_⟩
  · split at hx
    · exact hsuffix x hx
    · cases hx
  · rw [Decimal.exponent?.digits?, head?_append_newline, Option.any_some, hrun]
    split <;> rfl

/-- An exponent is read within its line. -/
theorem exists_exponent? (u : Text) :
    ∃ o : Option (Int × Text), (∀ x, o = some x → x.2 <:+ u) ∧
      ∀ below, Decimal.exponent? (u ++ '\n' :: below) = o.map (onLine below) := by
  obtain ⟨sign, v, hv, hexponent⟩ : ∃ (sign : Int → Int) (v : Text), v <:+ u ∧
      ∀ below, Decimal.exponent? (u ++ '\n' :: below) =
        (Decimal.exponent?.digits? (v ++ '\n' :: below)).map fun run =>
          (sign (Decimal.ofDigits run.1), run.2) := by
    cases u with
    | nil => exact ⟨id, [], List.suffix_rfl, fun below => rfl⟩
    | cons c v =>
      have hmore (below : Text) : ∃ d t, v ++ '\n' :: below = d :: t :=
        List.exists_cons_of_ne_nil (by simp)
      by_cases hplus : c = '+'
      · refine ⟨id, v, List.suffix_cons c v, fun below => ?_⟩
        obtain ⟨d, t, ht⟩ := hmore below
        rw [hplus, List.cons_append, ht]
        rfl
      · by_cases hminus : c = '-'
        · refine ⟨fun n => - n, v, List.suffix_cons c v, fun below => ?_⟩
          obtain ⟨d, t, ht⟩ := hmore below
          rw [hminus, List.cons_append, ht]
          rfl
        · refine ⟨id, c :: v, List.suffix_rfl, fun below => ?_⟩
          rw [List.cons_append, Decimal.exponent?]
          · rfl
          · simp [hplus]
          · simp [hminus]
  obtain ⟨o, hsuffix, hdigits⟩ := exists_digits? v
  refine ⟨o.map fun run => (sign (Decimal.ofDigits run.1), run.2), fun x hx => ?_, fun below => ?_⟩
  · obtain ⟨run, hrun, rfl⟩ := Option.map_eq_some_iff.mp hx
    exact (hsuffix run hrun).trans hv
  · rw [hexponent, hdigits, Option.map_map, Option.map_map]
    rfl

/-- What follows a number is looked at within its line. -/
theorem inLine_numberEnd {α : Type} {u r : Text} (kind : String) (value : α) (hr : r <:+ u) :
    InLine u fun below => numberEnd kind value (r ++ '\n' :: below) := by
  have hwords (below : Text) : (wordsAfterNumber.any fun w => w.isPrefixOf (r ++ '\n' :: below)) =
      wordsAfterNumber.any fun w => w.isPrefixOf r := by
    have hnot : ∀ w ∈ wordsAfterNumber, '\n' ∉ w := by decide
    rw [Bool.eq_iff_iff, List.any_eq_true, List.any_eq_true]
    refine exists_congr fun w => and_congr_right fun hw => ?_
    rw [isPrefixOf_append_newline (hnot w hw)]
  unfold numberEnd
  simp only [head?_append_newline, hwords]
  exact .ite (inLine_error u _) (inLine_ok value hr)

/-- A number in base two, eight or sixteen is read within its line. -/
theorem inLine_radixNumber (base : Nat) (kind : String) (u : Text) :
    InLine u fun below => radixNumber base kind (u ++ '\n' :: below) := by
  obtain ⟨v, hv, hdrop⟩ : ∃ v : Text, v <:+ u ∧ ∀ below,
      (if (u ++ '\n' :: below).head? = some '_' then (u ++ '\n' :: below).drop 1
        else u ++ '\n' :: below) = v ++ '\n' :: below := by
    cases u with
    | nil => exact ⟨[], List.suffix_rfl, fun below => rfl⟩
    | cons c u =>
      by_cases hc : c = '_'
      · exact ⟨u, List.suffix_cons c u, fun below => if_pos (by rw [hc]; rfl)⟩
      · exact ⟨c :: u, List.suffix_rfl, fun below => if_neg (by simpa using hc)⟩
  refine InLine.of_suffix ?_ hv
  have hhex : isHexDigit '\n' = false := by decide
  obtain ⟨o, hsuffix, hrun⟩ := exists_digitRun?
    (fun c => isHexDigit c && decide (hexDigitValue c < base)) (by simp [hhex]) v
  have hskip (below : Text) := dropWhile_append_newline
    (p := fun c => isHexDigit c && decide (hexDigitValue c < base) || c == '_') (by simp [hhex]) v
    below
  unfold radixNumber
  simp only [hdrop]
  simp only [hrun, hskip, head?_append_newline]
  cases o with
  | none => cases v <;> exact .ite (inLine_error ..) (inLine_error ..)
  | some run =>
    simp only [Option.map_some, onLine, head?_append_newline]
    cases (some (run.2.headD '\n')).filter Char.isDigit with
    | some d => cases v <;> exact .ite (inLine_error ..) (inLine_error ..)
    | none =>
      have hend := inLine_numberEnd kind
        (Constant.int (run.1.foldl (fun n c => base * n + hexDigitValue c) 0)) (hsuffix run rfl)
      cases v <;> exact .ite (inLine_error ..) hend

/-- The digits behind a point are read within their line. -/
theorem exists_fraction?_point (u : Text) :
    ∃ o : Option (Option Text × Text), (∀ x, o = some x → x.2 <:+ u) ∧
      ∀ below, fraction? ('.' :: (u ++ '\n' :: below)) = o.map (onLine below) := by
  obtain ⟨o, hsuffix, hrun⟩ := exists_digitRun? Char.isDigit (by decide) u
  refine ⟨if some (u.headD '\n') = some '_' then some (some [], u)
    else o.map fun run => (some run.1, run.2), fun x hx => ?_, fun below => ?_⟩
  · split at hx
    · obtain rfl := Option.some.inj hx
      exact List.suffix_rfl
    · obtain ⟨run, hrun, rfl⟩ := Option.map_eq_some_iff.mp hx
      exact hsuffix run hrun
  · rw [fraction?, head?_append_newline, hrun]
    split
    · rfl
    · rw [Option.map_map, Option.map_map]
      rfl

theorem exists_fraction? (u : Text) :
    ∃ o : Option (Option Text × Text), (∀ x, o = some x → x.2 <:+ u) ∧
      ∀ below, fraction? (u ++ '\n' :: below) = o.map (onLine below) := by
  cases u with
  | nil => exact ⟨some (none, []), by simp, fun below => rfl⟩
  | cons c u =>
    by_cases hdot : c = '.'
    · obtain ⟨o, hsuffix, hfraction⟩ := exists_fraction?_point u
      exact ⟨o, fun x hx => (hsuffix x hx).trans (List.suffix_cons c u), hdot ▸ hfraction⟩
    · refine ⟨some (none, c :: u), by simp, fun below => ?_⟩
      rw [List.cons_append, fraction?]
      · rfl
      · simp [hdot]

theorem beginsExponent_append_newline (r below : Text) :
    beginsExponent (r ++ '\n' :: below) = beginsExponent r := by
  have hsign : ('\n'.isDigit || '\n' == '+' || '\n' == '-') = false := by decide
  have hletter : ('\n' == 'e' || '\n' == 'E') = false := by decide
  rcases r with _ | ⟨e, _ | ⟨sign, r⟩⟩
  · cases below with
    | nil => rfl
    | cons c below =>
      rw [List.nil_append, beginsExponent, hletter, Bool.false_and]
      rfl
  · show ((e == 'e' || e == 'E') && ('\n'.isDigit || '\n' == '+' || '\n' == '-')) = false
    rw [hsign, Bool.and_false]
  · rfl

/-- An exponent, or what follows a number without one, is looked at within its line. -/
theorem inLine_decimalEnd {u v : Text} (hv : v <:+ u) (whole : Text) (fraction : Option Text) :
    InLine u fun below => decimalEnd whole fraction (v ++ '\n' :: below) := by
  unfold decimalEnd
  simp only [beginsExponent_append_newline]
  by_cases hbegins : beginsExponent v = true
  · simp only [if_pos hbegins]
    cases v with
    | nil => cases hbegins
    | cons e v =>
      obtain ⟨o, hsuffix, hexponent⟩ := exists_exponent? v
      simp only [List.cons_append, List.drop_one, List.tail_cons, hexponent]
      cases o with
      | none => exact inLine_error ..
      | some x =>
        exact inLine_numberEnd _ _ ((hsuffix x rfl).trans ((List.suffix_cons e v).trans hv))
  · simp only [if_neg hbegins]
    exact .ite (inLine_numberEnd _ _ hv) (.ite (inLine_error ..) (inLine_numberEnd _ _ hv))

/-- A decimal number is read within its line, and it takes the digit or the point that it begins
with. -/
theorem inLine_decimalNumber {c : Char} (hc : c.isDigit = true ∨ c = '.') (u : Text) :
    InLine u fun below => decimalNumber (c :: (u ++ '\n' :: below)) := by
  unfold decimalNumber
  by_cases hdigit : c.isDigit = true
  · obtain ⟨o, hwhole, hrun⟩ := exists_digitRun? Char.isDigit (by decide) u
    simp only [Decimal.digitRun?, hdigit, if_true, hrun]
    cases o with
    | none => exact inLine_error ..
    | some run =>
      obtain ⟨o, hpart, hfraction⟩ := exists_fraction? run.2
      simp only [Option.map_some, onLine, hfraction]
      cases o with
      | none => exact inLine_error ..
      | some part => exact inLine_decimalEnd ((hpart _ rfl).trans (hwhole _ rfl)) _ _
  · obtain rfl : c = '.' := hc.resolve_left hdigit
    obtain ⟨o, hpart, hfraction⟩ := exists_fraction?_point u
    have hrun (t : Text) : Decimal.digitRun? Char.isDigit ('.' :: t) = some ([], '.' :: t) := rfl
    simp only [hrun, hfraction]
    cases o with
    | none => exact inLine_error ..
    | some part => exact inLine_decimalEnd (hpart _ rfl) _ _

/-- **A number is read within its line**, and it takes the digit or the point that it begins with.
-/
theorem inLine_number {c : Char} (hc : c.isDigit = true ∨ c = '.') (u : Text) :
    InLine u fun below => number (c :: (u ++ '\n' :: below)) := by
  have hdecimal := inLine_decimalNumber hc u
  by_cases hzero : c = '0'
  · subst hzero
    cases u with
    | nil => exact hdecimal.congr fun below => rfl
    | cons d v =>
      have hv : v <:+ d :: v := List.suffix_cons d v
      simp only [List.cons_append, number]
      split
      · exact (inLine_radixNumber ..).of_suffix hv
      · exact (inLine_radixNumber ..).of_suffix hv
      · exact (inLine_radixNumber ..).of_suffix hv
      · exact hdecimal
  · refine hdecimal.congr fun below => ?_
    unfold number
    split
    · rename_i heq
      exact absurd (List.cons.inj heq).1 hzero
    · rfl

/-! ## Words and symbols -/

/-- What a string may begin with. -/
def IsQuote (c : Char) : Prop := c = '"' ∨ c = '\x27'

theorem IsQuote.ne_newline {c : Char} (h : IsQuote c) : '\n' ≠ c := by
  obtain rfl | rfl := h <;> decide

/-- The beginning of a string is known from its line. -/
theorem exists_stringStart? (c : Char) (u : Text) :
    ∃ o : Option (Text × Char × Text), (∀ x, o = some x → IsQuote x.2.1 ∧ x.2.2 <:+ u) ∧
      ∀ below, stringStart? (c :: (u ++ '\n' :: below)) =
        o.map fun x => (x.1, x.2.1, x.2.2 ++ '\n' :: below) := by
  have htake (below : Text) : ((c :: (u ++ '\n' :: below)).take 2).takeWhile Char.isAlpha =
      ((c :: u).take 2).takeWhile Char.isAlpha := by
    cases u with
    | nil => exact takeWhile_append_newline (by decide) [c] []
    | cons d u => rfl
  unfold stringStart?
  simp only [htake]
  generalize hletters : ((c :: u).take 2).takeWhile Char.isAlpha = letters
  have hle : letters.length ≤ (c :: u).length := by
    rw [← hletters]
    exact (List.takeWhile_prefix _).length_le.trans (List.length_take_le' 2 _)
  have hdrop (below : Text) : (c :: (u ++ '\n' :: below)).drop letters.length =
      (c :: u).drop letters.length ++ '\n' :: below := List.drop_append_of_le_length hle
  simp only [hdrop]
  cases hrest : (c :: u).drop letters.length with
  | nil => exact ⟨none, by simp, fun below => rfl⟩
  | cons quote rest =>
    have hsuffix : quote :: rest <:+ c :: u := hrest ▸ List.drop_suffix letters.length (c :: u)
    have hu : rest <:+ u := by
      rcases List.suffix_cons_iff.mp hsuffix with heq | hsuffix
      · exact (List.cons.inj heq).2 ▸ List.suffix_rfl
      · exact (List.suffix_cons quote rest).trans hsuffix
    by_cases hquote : ((quote == '"' || quote == '\x27') &&
        stringLetters.contains (letters.map Char.toLower)) = true
    · refine ⟨some (letters.map Char.toLower, quote, rest), fun x hx => ?_, fun below => ?_⟩
      · obtain rfl := Option.some.inj hx
        simp only [Bool.and_eq_true, Bool.or_eq_true, beq_iff_eq] at hquote
        exact ⟨hquote.1, hu⟩
      · exact if_pos hquote
    · exact ⟨none, by simp, fun below => if_neg hquote⟩

/-- A token and the layout behind it, apart from the text that is left. -/
def tokenPart (x : Token × Layout × Text) : (Token × Layout) × Text := ((x.1, x.2.1), x.2.2)

/-- A symbol is read within its line. -/
theorem inLine_readSymbol (st : Layout) (c : Char) (u : Text) :
    InLine u fun below => (readSymbol st c (u ++ '\n' :: below)).map tokenPart := by
  have hfind (below : Text) : longSymbols.find? (·.isPrefixOf (c :: (u ++ '\n' :: below))) =
      longSymbols.find? (·.isPrefixOf (c :: u)) := by
    have hnot : ∀ s ∈ longSymbols, '\n' ∉ s := by decide
    exact List.find?_congr fun s hs => isPrefixOf_append_newline (hnot s hs) (c :: u) below
  have hok (token : Token) (st : Layout) : InLine u fun below =>
      (Except.map tokenPart (.ok (token, st, u ++ '\n' :: below)) : Except LexFault _) :=
    inLine_ok (token, st) List.suffix_rfl
  have herror (fault : LexFault) : InLine u fun _ =>
      (Except.map tokenPart (.error fault) : Except LexFault _) := inLine_error u fault
  unfold readSymbol
  simp only [hfind]
  cases hs : longSymbols.find? (·.isPrefixOf (c :: u)) with
  | some s =>
    have hne : ∀ s ∈ longSymbols, s ≠ [] := by decide
    obtain ⟨d, s, rfl⟩ := List.exists_cons_of_ne_nil (hne s (List.mem_of_find?_eq_some hs))
    have hle : s.length ≤ u.length := by
      have hstart := List.find?_some hs
      simpa using (List.isPrefixOf_iff_prefix.mp hstart).length_le
    refine (inLine_ok (st.token (.symbol (d :: s)), st) (List.drop_suffix s.length u)).congr
      fun below => ?_
    dsimp only
    rw [List.length_cons, List.drop_succ_cons, List.drop_append_of_le_length hle]
    rfl
  | none =>
    dsimp only
    split
    · split
      · exact herror _
      · exact hok _ _
    · split
      · cases st.brackets with
        | nil => exact herror _
        | cons bracket outer =>
          dsimp only
          split
          · exact hok _ _
          · exact herror _
      · split
        · exact hok _ _
        · exact herror _

theorem inLine_readToken (st : Layout) (last : Nat) (c : Char) (u : Text)
    (hstring : ∀ below, stringStart? (c :: (u ++ '\n' :: below)) = none) :
    InLine u fun below => (readToken st last c (u ++ '\n' :: below)).map tokenPart := by
  have hpart : isWordPart '\n' = false := by decide
  unfold readToken
  simp only [hstring]
  by_cases hstart : isWordStart c = true
  · have hc := isWordPart_of_isWordStart hstart
    simp only [if_pos hstart, List.takeWhile_cons_of_pos hc, List.dropWhile_cons_of_pos hc,
      takeWhile_append_newline hpart, dropWhile_append_newline hpart]
    cases wordToken (c :: u.takeWhile isWordPart) with
    | ok kind => exact inLine_ok (st.token kind, st) (List.dropWhile_suffix isWordPart)
    | error message => exact inLine_error ..
  · simp only [if_neg hstart, head?_append_newline]
    by_cases hc : (c.isDigit || (c == '.' && (some (u.headD '\n')).any Char.isDigit)) = true
    · have hfirst : c.isDigit = true ∨ c = '.' := by
        simp only [Bool.or_eq_true, Bool.and_eq_true, beq_iff_eq] at hc
        exact hc.imp_right And.left
      simp only [if_pos hc]
      obtain ⟨e, he⟩ | ⟨x, hx, hnumber⟩ := inLine_number hfirst u
      · simp only [he]
        exact inLine_error ..
      · simp only [hnumber]
        exact inLine_ok (st.token (.number x.1), st) hx
    · simp only [if_neg hc]
      exact inLine_readSymbol st c u

/-- **A token that is no string is read within its line**: what stands on the lines below, and how
many lines there are, does not matter. -/
theorem exists_readToken (st : Layout) (c : Char) (u : Text)
    (hstring : ∀ below, stringStart? (c :: (u ++ '\n' :: below)) = none) :
    (∃ fault, ∀ last below, readToken st last c (u ++ '\n' :: below) = .error fault) ∨
      ∃ token st' v, v <:+ u ∧ ∀ last below,
        readToken st last c (u ++ '\n' :: below) = .ok (token, st', v ++ '\n' :: below) := by
  have hlast (last : Nat) (below : Text) : readToken st last c (u ++ '\n' :: below) =
      readToken st 0 c (u ++ '\n' :: below) := by
    unfold readToken
    rw [hstring]
  simp only [hlast]
  obtain ⟨e, he⟩ | ⟨x, hx, hok⟩ := inLine_readToken st 0 c u hstring
  · refine .inl ⟨e, fun _ below => ?_⟩
    have hread := he below
    dsimp only at hread
    cases hresult : readToken st 0 c (u ++ '\n' :: below) with
    | error fault =>
      rw [hresult] at hread
      rw [Except.error.inj hread]
    | ok read =>
      rw [hresult] at hread
      cases hread
  · refine .inr ⟨x.1.1, x.1.2, x.2, hx, fun _ below => ?_⟩
    have hread := hok below
    dsimp only at hread
    cases hresult : readToken st 0 c (u ++ '\n' :: below) with
    | error fault =>
      rw [hresult] at hread
      cases hread
    | ok read =>
      rw [hresult] at hread
      obtain ⟨hpart, hrest⟩ := Prod.mk.inj (Except.ok.inj hread)
      rw [← hpart, ← hrest]

end Stencil.Code
