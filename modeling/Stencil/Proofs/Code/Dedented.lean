import Stencil.Proofs.Code.Local

/-!
# Tokens of dedented code

Code that loses its margin, and the blanks of its blank lines with it. As long as nothing but the
blank lines changes, a token is read as before, unless it is a string that such a line stands in.

* `Dedented`: code without its margin.
* `stringsMatch_line`: strings.
* `readsMatch_readToken`: tokens of any kind.
-/

namespace Stencil.Code

open Text (isIndent)

/-- The second text is the first one without its margin: its lines begin behind the margin, and
lines of blanks and tabs alone come out empty. The last line may be missing if it is such a line and
not joined to the line before: `joined` says that the line before ends in a backslash. Behind a
margin, a line is not made to begin anew by a form feed. -/
inductive Dedented (margin : Text) : (joined : Bool) → Text → Text → Prop where
  | nil (joined : Bool) : Dedented margin joined [] []
  | line {joined joined' : Bool} {a b : Text} (u : Text) (hu : '\n' ∉ u)
      (hjoined : ['\\'] <:+ u → joined' = true)
      (hform : margin = [] ∨ (u.dropWhile isIndent).head? ≠ some '\x0c')
      (h : Dedented margin joined' a b) :
      Dedented margin joined (margin ++ (u ++ '\n' :: a)) (u ++ '\n' :: b)
  | blank {joined : Bool} {a b : Text} (w : Text) (hw : w.all isIndent = true)
      (h : Dedented margin false a b) : Dedented margin joined (w ++ '\n' :: a) ('\n' :: b)
  | last (w : Text) (hw : w.all isIndent = true) : Dedented margin false (w ++ ['\n']) []

/-- Two texts that go on with the same rest of a line, and below it the second is the first one
without its margin. -/
inductive InStep (margin : Text) : Text → Text → Prop where
  | mk {joined : Bool} {a b : Text} (u : Text) (hu : '\n' ∉ u)
      (hjoined : ['\\'] <:+ u → joined = true) (h : Dedented margin joined a b) :
      InStep margin (u ++ '\n' :: a) (u ++ '\n' :: b)

/-! ## Blank lines -/

/-- A line of blanks and tabs alone, and not an empty one, stands in the text between two other
lines. -/
def HasBlankLine (t : Text) : Prop :=
  ∃ before w after, t = before ++ '\n' :: (w ++ '\n' :: after) ∧ w ≠ [] ∧ w.all isIndent = true

theorem HasBlankLine.append_left {t : Text} (h : HasBlankLine t) (s : Text) :
    HasBlankLine (s ++ t) := by
  obtain ⟨before, w, after, rfl, hw⟩ := h
  exact ⟨s ++ before, w, after, by rw [List.append_assoc], hw⟩

theorem hasBlankLine_cons_iff {c : Char} {t : Text} :
    HasBlankLine (c :: t) ↔
      (c = '\n' ∧ t.takeWhile isIndent ≠ [] ∧ (t.dropWhile isIndent).head? = some '\n') ∨
        HasBlankLine t := by
  constructor
  · rintro ⟨_ | ⟨d, before⟩, w, after, ht, hne, hw⟩
    · obtain ⟨rfl, rfl⟩ := List.cons.inj ht
      have hall := List.all_eq_true.mp hw
      rw [List.takeWhile_append_of_pos hall, List.dropWhile_append_of_pos hall]
      exact .inl ⟨rfl, by simp [hne], rfl⟩
    · obtain ⟨rfl, rfl⟩ := List.cons.inj ht
      exact .inr ⟨before, w, after, rfl, hne, hw⟩
  · rintro (⟨rfl, hne, hhead⟩ | h)
    · obtain ⟨after, hafter⟩ := List.head?_eq_some_iff.mp hhead
      refine ⟨[], t.takeWhile isIndent, after, ?_, hne, List.all_takeWhile⟩
      rw [← hafter, List.takeWhile_append_dropWhile]
      rfl
    · exact h.append_left [c]

instance decidableHasBlankLine : (t : Text) → Decidable (HasBlankLine t)
  | [] => .isFalse fun ⟨before, _, _, ht, _⟩ => by simp at ht
  | _ :: t =>
    have := decidableHasBlankLine t
    decidable_of_iff _ hasBlankLine_cons_iff.symm

/-! ## Strings -/

theorem stringInside_cons {quote c : Char} (long : Bool) (hc : c ≠ '\\') (t : Text) :
    stringInside quote long (c :: t) =
      match if c = quote then Text.after? (if long then [quote, quote] else []) t else none with
      | some rest => some ([], rest)
      | none =>
        if c = '\n' && ! long then none
        else (stringInside quote long t).map fun cut => ([c] ++ cut.1, cut.2) := by
  rw [stringInside]
  · rfl
  · simp [hc]

/-- Nothing before the end of the inside is taken again. -/
theorem length_lt_of_stringInside {quote : Char} {long : Bool} {t inside rest : Text}
    (h : stringInside quote long t = some (inside, rest)) : rest.length < t.length := by
  fun_induction stringInside quote long t generalizing inside with
  | case1 => cases h
  | case2 c t ih =>
    obtain ⟨cut, hcut, hpair⟩ := Option.map_eq_some_iff.mp h
    obtain ⟨-, rfl⟩ := Prod.mk.inj hpair
    have hrest := ih hcut
    simp only [List.length_cons]
    omega
  | case3 c t _ _ rest' =>
    rename_i hafter
    obtain ⟨-, rfl⟩ := Prod.mk.inj (Option.some.inj h)
    split at hafter
    · have hwhole := congrArg List.length (Text.eq_of_after? hafter)
      simp only [List.length_append] at hwhole
      simp only [List.length_cons]
      omega
    · cases hafter
  | case4 => cases h
  | case5 c t =>
    rename_i ih
    obtain ⟨cut, hcut, hpair⟩ := Option.map_eq_some_iff.mp h
    obtain ⟨-, rfl⟩ := Prod.mk.inj hpair
    have hrest := ih hcut
    simp only [List.length_cons]
    omega

/-- A string in the first of two texts is the same string in the second, if no line of blanks stands
in it; `front` is what the string has in front of the place. -/
def StringsMatch (front : Text) (o o' : Option (Text × Text)) : Prop :=
  match o with
  | none => o' = none
  | some (inside, a) =>
    ¬ HasBlankLine (front ++ inside) → ∃ b, o' = some (inside, b) ∧ InStep [] a b

theorem StringsMatch.of_suffix {o o' : Option (Text × Text)} {s front : Text}
    (h : StringsMatch s o o') (hs : s <:+ front) : StringsMatch front o o' := by
  obtain ⟨before, rfl⟩ := hs
  cases o with
  | none => exact h
  | some cut =>
    refine fun hblank => h fun hinside => hblank ?_
    rw [List.append_assoc]
    exact hinside.append_left before

theorem StringsMatch.map {o o' : Option (Text × Text)} {front s : Text}
    (h : StringsMatch (front ++ s) o o') :
    StringsMatch front (o.map fun cut => (s ++ cut.1, cut.2))
      (o'.map fun cut => (s ++ cut.1, cut.2)) := by
  cases o with
  | none =>
    obtain rfl : o' = none := h
    rfl
  | some cut =>
    intro hblank
    obtain ⟨b, rfl, hb⟩ := h (by rwa [List.append_assoc])
    exact ⟨b, rfl, hb⟩

section

variable {quote : Char} (hquote : IsQuote quote) (long : Bool)

include hquote

theorem stringInside_newline (t : Text) :
    stringInside quote long ('\n' :: t) =
      if long then (stringInside quote long t).map fun cut => (['\n'] ++ cut.1, cut.2)
      else none := by
  rw [stringInside_cons long (by decide), if_neg hquote.ne_newline]
  cases long <;> rfl

/-- Blanks belong to the inside of a string. -/
theorem stringInside_blanks {w : Text} (hw : w.all isIndent = true) (t : Text) :
    stringInside quote long (w ++ t) =
      (stringInside quote long t).map fun cut => (w ++ cut.1, cut.2) := by
  induction w with
  | nil => simp
  | cons c w ih =>
    rw [List.all_cons, Bool.and_eq_true] at hw
    have hc : c = ' ' ∨ c = '\t' := by simpa [isIndent] using hw.1
    have hne : c ≠ quote := by
      obtain rfl | rfl := hquote <;> obtain rfl | rfl := hc <;> decide
    have hback : c ≠ '\\' := by obtain rfl | rfl := hc <;> decide
    have hline : ¬ (c = '\n' && ! long) = true := by obtain rfl | rfl := hc <;> simp
    rw [List.cons_append, stringInside_cons long hback, if_neg hne, ih hw.2]
    dsimp only
    rw [if_neg hline, Option.map_map]
    rfl

theorem stringsMatch_newline {a b : Text}
    (h : StringsMatch ['\n'] (stringInside quote long a) (stringInside quote long b)) :
    StringsMatch [] (stringInside quote long ('\n' :: a))
      (stringInside quote long ('\n' :: b)) := by
  rw [stringInside_newline hquote, stringInside_newline hquote]
  cases long with
  | false => rfl
  | true => exact StringsMatch.map h

/-- Strings that are open where the rest of a line is `u` match if they do on the lines below. -/
theorem stringsMatch_line {joined : Bool} {a b : Text} (h : Dedented [] joined a b)
    (hbelow : StringsMatch ['\n'] (stringInside quote long a) (stringInside quote long b)) :
    ∀ u : Text, '\n' ∉ u → (['\\'] <:+ u → joined = true) →
      StringsMatch [] (stringInside quote long (u ++ '\n' :: a))
        (stringInside quote long (u ++ '\n' :: b))
  | [], _, _ => stringsMatch_newline hquote long hbelow
  | c :: u, hu, hjoined => by
    rw [List.mem_cons, not_or] at hu
    have hrest (v : Text) (hv : v <:+ u) (hshort : v.length ≤ u.length) :=
      stringsMatch_line h hbelow v (fun hmem => hu.2 (hv.subset hmem))
        (fun hback => hjoined (hback.trans (hv.trans (List.suffix_cons c u))))
    by_cases hc : c = '\\'
    · subst hc
      -- a backslash takes the next character with it, which may be the end of the line
      cases u with
      | nil => exact StringsMatch.map (s := ['\\', '\n']) (hbelow.of_suffix ⟨['\\'], rfl⟩)
      | cons d v =>
        exact StringsMatch.map (s := ['\\', d])
          ((hrest v (List.suffix_cons d v) (by simp)).of_suffix List.nil_suffix)
    · have hwhole : '\n' ∉ (if long then [quote, quote] else []) := by
        have hne := hquote.ne_newline
        split <;> simp [hne]
      have hclose (below : Text) :
          (if c = quote then Text.after? (if long then [quote, quote] else []) (u ++ '\n' :: below)
            else none) =
          (if c = quote then Text.after? (if long then [quote, quote] else []) u else none).map
            (· ++ '\n' :: below) := by
        rw [after?_append_newline hwhole]
        split <;> rfl
      rw [List.cons_append, List.cons_append, stringInside_cons long hc, stringInside_cons long hc,
        hclose, hclose]
      cases hend :
        if c = quote then Text.after? (if long then [quote, quote] else []) u else none with
      | none =>
        have hline : ¬ (c = '\n' && ! long) = true := by simp [Ne.symm hu.1]
        dsimp only [Option.map_none]
        rw [if_neg hline, if_neg hline]
        exact StringsMatch.map (s := [c])
          ((hrest u List.suffix_rfl le_rfl).of_suffix List.nil_suffix)
      | some rest =>
        have hsuffix : rest <:+ c :: u := by
          split at hend
          · exact (Text.eq_of_after? hend ▸ List.suffix_append _ rest).trans (List.suffix_cons c u)
          · cases hend
        have hnot : '\n' ∉ c :: u := by simpa using hu
        exact fun _ => ⟨_, rfl, .mk rest (fun hmem => hnot (hsuffix.subset hmem))
          (fun hback => hjoined (hback.trans hsuffix)) h⟩
termination_by u => u.length

theorem stringsMatch_of_dedented {joined : Bool} {a b : Text} (h : Dedented [] joined a b) :
    StringsMatch ['\n'] (stringInside quote long a) (stringInside quote long b) := by
  induction h with
  | nil => rfl
  | line u hu hjoined _ h ih =>
    exact (stringsMatch_line hquote long h ih u hu hjoined).of_suffix List.nil_suffix
  | @blank joined a b w hw h ih =>
    have hnewline := stringsMatch_newline hquote long ih
    rw [stringInside_blanks hquote long hw]
    cases w with
    | nil =>
      have hsame : StringsMatch ['\n'] _ _ := hnewline.of_suffix List.nil_suffix
      simpa using hsame
    | cons c w =>
      cases hinside : stringInside quote long ('\n' :: a) with
      | none =>
        rw [hinside] at hnewline
        exact hnewline
      | some cut =>
        rw [stringInside_newline hquote] at hinside
        split at hinside
        · obtain ⟨below, -, rfl⟩ := Option.map_eq_some_iff.mp hinside
          exact fun hblank => absurd ⟨[], c :: w, below.1, by simp, by simp, hw⟩ hblank
        · cases hinside
  | last w hw =>
    rw [stringInside_blanks hquote long hw, stringInside_newline hquote]
    cases long <;> rfl

end

/-! ## Tokens -/

/-- No line of blanks stands in the token, if it is a string. -/
def Token.Compact (token : Token) : Prop :=
  ∀ s, token.kind = .string s → ¬ HasBlankLine s.inside

instance (token : Token) : Decidable token.Compact :=
  match h : token.kind with
  | .string s => decidable_of_iff (¬ HasBlankLine s.inside) (by simp [Token.Compact, h])
  | .name _ | .keyword _ | .number _ | .symbol _ | .newline | .indent | .dedent | .finish =>
    .isTrue (by simp [Token.Compact, h])

/-- A token in the first of two texts is the same token in the second, if no line of blanks stands
in it, and the texts go on in step. -/
def ReadsMatch (o o' : Except LexFault (Token × Layout × Text)) : Prop :=
  match o with
  | .error _ => ∃ fault, o' = .error fault
  | .ok (token, st, a) => token.Compact → ∃ b, o' = .ok (token, st, b) ∧ InStep [] a b

/-- The token of a string, and the layout behind it. -/
def stringPart (st : Layout) (letters inside : Text) : Token × Layout :=
  ({ st.token (.string
      { raw := letters.contains 'r', bytes := letters.contains 'b'
        formatted := letters.contains 'f', inside }) with
      lastLine := st.line + inside.count '\n' },
    { st with line := st.line + inside.count '\n' })

/-- A string is found from where its inside begins, on the line of its quote. -/
theorem exists_readToken_string (st : Layout) {c quote : Char} {letters u v : Text} (hv : v <:+ u)
    (hquote : IsQuote quote)
    (hstart : ∀ below,
      stringStart? (c :: (u ++ '\n' :: below)) = some (letters, quote, v ++ '\n' :: below)) :
    ∃ long w, w <:+ u ∧ ∀ last below, ∃ fault, readToken st last c (u ++ '\n' :: below) =
      match stringInside quote long (w ++ '\n' :: below) with
      | some (inside, rest) =>
        .ok ((stringPart st letters inside).1, (stringPart st letters inside).2, rest)
      | none => .error fault := by
  have hnot : '\n' ∉ [quote, quote] := by
    have hne := hquote.ne_newline
    simp [hne]
  refine ⟨(Text.after? [quote, quote] v).isSome,
    if (Text.after? [quote, quote] v).isSome then v.drop 2 else v, ?_, fun last below => ?_⟩
  · split
    · exact (List.drop_suffix 2 v).trans hv
    · exact hv
  · have hbody : (if (Text.after? [quote, quote] v).isSome then (v ++ '\n' :: below).drop 2
        else v ++ '\n' :: below) =
        (if (Text.after? [quote, quote] v).isSome then v.drop 2 else v) ++ '\n' :: below := by
      split
      · rename_i hlong
        obtain ⟨rest, hrest⟩ := Option.isSome_iff_exists.mp hlong
        have hle : 2 ≤ v.length := by
          rw [Text.eq_of_after? hrest]
          simp
        exact List.drop_append_of_le_length hle
      · rfl
    unfold readToken
    rw [hstart]
    dsimp only
    rw [after?_append_newline hnot, Option.isSome_map, hbody]
    cases stringInside quote _ (_ ++ '\n' :: below) with
    | none => exact ⟨_, rfl⟩
    | some cut => exact ⟨st.fault true [], rfl⟩

/-- Nothing of a token is read again. -/
theorem length_le_of_readToken {st st' : Layout} {last : Nat} {c : Char} {u below rest : Text}
    {token : Token} (h : readToken st last c (u ++ '\n' :: below) = .ok (token, st', rest)) :
    rest.length ≤ (u ++ '\n' :: below).length := by
  obtain ⟨o, ho, hstart⟩ := exists_stringStart? c u
  cases o with
  | some start =>
    obtain ⟨hquote, hv⟩ := ho start rfl
    obtain ⟨long, w, hw, hread⟩ := exists_readToken_string st hv hquote hstart
    obtain ⟨fault, hread⟩ := hread last below
    rw [hread] at h
    split at h
    · rename_i inside after hinside
      obtain ⟨-, -, rfl⟩ : _ ∧ _ ∧ after = rest := by simpa using h
      have hshort := length_lt_of_stringInside hinside
      have hle := hw.length_le
      simp only [List.length_append] at hshort ⊢
      omega
    · cases h
  | none =>
    obtain ⟨fault, herror⟩ | ⟨token', st'', v, hv, hok⟩ := exists_readToken st c u hstart
    · rw [herror] at h
      cases h
    · rw [hok] at h
      obtain ⟨-, -, rfl⟩ : _ ∧ _ ∧ v ++ '\n' :: below = rest := by simpa using h
      have hle := hv.length_le
      simp only [List.length_append]
      omega

/-- **A token of code without blank lines.** Where two texts go in step, the next token is the same
in both, unless a line of blanks stands in it. -/
theorem readsMatch_readToken {joined : Bool} {a b : Text} (h : Dedented [] joined a b) (st : Layout)
    (last last' : Nat) (c : Char) {u : Text} (hu : '\n' ∉ u)
    (hjoined : ['\\'] <:+ u → joined = true) :
    ReadsMatch (readToken st last c (u ++ '\n' :: a)) (readToken st last' c (u ++ '\n' :: b)) := by
  have hstep (v : Text) (hv : v <:+ u) : InStep [] (v ++ '\n' :: a) (v ++ '\n' :: b) :=
    .mk v (fun hmem => hu (hv.subset hmem)) (fun hback => hjoined (hback.trans hv)) h
  obtain ⟨o, ho, hstart⟩ := exists_stringStart? c u
  cases o with
  | some start =>
    obtain ⟨hquote, hv⟩ := ho start rfl
    obtain ⟨long, w, hw, hread⟩ := exists_readToken_string st hv hquote hstart
    obtain ⟨fault, hreada⟩ := hread last a
    obtain ⟨fault', hreadb⟩ := hread last' b
    have hmatch := stringsMatch_line hquote long h (stringsMatch_of_dedented hquote long h) w
      (fun hmem => hu (hw.subset hmem)) (fun hback => hjoined (hback.trans hw))
    rw [hreada, hreadb]
    cases hinside : stringInside start.2.1 long (w ++ '\n' :: a) with
    | none =>
      rw [hinside] at hmatch
      rw [show stringInside start.2.1 long (w ++ '\n' :: b) = none from hmatch]
      exact ⟨fault', rfl⟩
    | some cut =>
      rw [hinside] at hmatch
      intro hcompact
      obtain ⟨rest, hrest, hnext⟩ := hmatch (hcompact _ rfl)
      rw [hrest]
      exact ⟨rest, rfl, hnext⟩
  | none =>
    obtain ⟨fault, herror⟩ | ⟨token, st', v, hv, hok⟩ := exists_readToken st c u hstart
    · rw [herror, herror]
      exact ⟨fault, rfl⟩
    · rw [hok, hok]
      exact fun _ => ⟨_, rfl, hstep v hv⟩

end Stencil.Code
