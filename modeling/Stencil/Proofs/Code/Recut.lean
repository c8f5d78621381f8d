import Stencil.Proofs.Blind.Text
import Stencil.Proofs.Code.Dedented

/-!
# Cutting dedented code

Code that loses the blanks of its blank lines has the same tokens as before, but for their lines, if
no such line stands in a string. Code with a margin is refused for it, unless it holds nothing but
blank lines and comments; without the margin it holds no more.

* `measured_of_dedented`: indentation.
* `sameTokens`: all tokens of code without a margin.
* `bare_tokens_of_dedented`: all tokens of code that can be read.
-/

namespace Stencil.Code

open Text (isIndent)

/-! ## Indentation -/

theorem measureIndent_backslash {c : Char} (hc : c ≠ '\n') (column narrow : Nat)
    (held : Option (Nat × Nat)) (joined : Nat) (t : Text) :
    measureIndent column narrow held joined ('\\' :: c :: t) = none := by
  rw [measureIndent]
  simp [hc]

/-- Blanks are measured. -/
theorem exists_measureIndent_append {w : Text} (hw : w.all isIndent = true) (column narrow : Nat)
    (held : Option (Nat × Nat)) (joined : Nat) (t : Text) :
    ∃ column' narrow', (w = [] → column' = column ∧ narrow' = narrow) ∧ (w ≠ [] → 0 < column') ∧
      measureIndent column narrow held joined (w ++ t) =
        measureIndent column' narrow' held joined t := by
  induction w generalizing column narrow with
  | nil => exact ⟨column, narrow, fun _ => ⟨rfl, rfl⟩, fun h => absurd rfl h, rfl⟩
  | cons c w ih =>
    rw [List.all_cons, Bool.and_eq_true] at hw
    have hc : c = ' ' ∨ c = '\t' := by simpa [isIndent] using hw.1
    obtain ⟨deeper, deeperNarrow, hpos, hmeasure⟩ : ∃ deeper deeperNarrow, 0 < deeper ∧
        measureIndent column narrow held joined (c :: w ++ t) =
          measureIndent deeper deeperNarrow held joined (w ++ t) := by
      obtain rfl | rfl := hc
      · exact ⟨column + 1, narrow + 1, by omega, rfl⟩
      · exact ⟨(column / 8 + 1) * 8, narrow + 1, by omega, rfl⟩
    obtain ⟨column', narrow', hnil, hmore, hrest⟩ := ih hw.2 deeper deeperNarrow
    refine ⟨column', narrow', by simp, fun _ => ?_, hmeasure.trans hrest⟩
    by_cases hw' : w = []
    · rw [(hnil hw').1]
      exact hpos
    · exact hmore hw'

theorem isSuffix_of_measureIndent {column narrow joined : Nat} {held : Option (Nat × Nat)}
    {t : Text} {column' narrow' joined' : Nat} {rest : Text}
    (h : measureIndent column narrow held joined t = some (column', narrow', joined', rest)) :
    rest <:+ t := by
  fun_induction measureIndent column narrow held joined t with
  | case1 _ _ _ _ t ih => exact (ih h).trans (List.suffix_cons _ t)
  | case2 _ _ _ _ t ih => exact (ih h).trans (List.suffix_cons _ t)
  | case3 _ _ _ _ t ih => exact (ih h).trans (List.suffix_cons _ t)
  | case4 _ _ _ _ t _ ih => exact (ih h).trans ⟨['\\', '\n'], rfl⟩
  | case5 => cases h
  | case6 =>
    obtain ⟨-, -, -, rfl⟩ := by simpa using h
    exact List.suffix_rfl

/-- Where measuring has come to in two texts: the columns, and the indentation that a joined line
has had. Without a margin both have come to the same; behind a margin, the first is indented. -/
inductive Aligned (margin : Text) : (column narrow : Nat) → (held : Option (Nat × Nat)) →
    (column' narrow' : Nat) → (held' : Option (Nat × Nat)) → Prop where
  | same (hmargin : margin = []) (column narrow : Nat) (held : Option (Nat × Nat)) :
      Aligned margin column narrow held column narrow held
  | behind (hmargin : margin ≠ []) {column : Nat} (hcolumn : 0 < column) (narrow : Nat)
      {held : Option (Nat × Nat)} (hheld : ∀ level ∈ held, 0 < level.1)
      (column' narrow' : Nat) (held' : Option (Nat × Nat)) :
      Aligned margin column narrow held column' narrow' held'

/-- What the indentation of a line is, with its margin and without. -/
inductive Measured (margin : Text) :
    Option (Nat × Nat × Nat × Text) → Option (Nat × Nat × Nat × Text) → Prop where
  | refused : Measured margin none none
  | ended (column narrow column' narrow' joined : Nat) :
      Measured margin (some (column, narrow, joined, [])) (some (column', narrow', joined, []))
  | last (column narrow column' narrow' : Nat) :
      Measured margin (some (column, narrow, 0, ['\n'])) (some (column', narrow', 0, []))
  | line {column narrow column' narrow' : Nat} (joined : Nat) {a b : Text}
      (halign : a.head? = some '\n' ∨ Aligned margin column narrow none column' narrow' none)
      (h : InStep margin a b) :
      Measured margin (some (column, narrow, joined, a)) (some (column', narrow', joined, b))

section

variable {margin : Text} {column narrow column' narrow' : Nat} {held held' : Option (Nat × Nat)}

theorem Aligned.deeper (h : Aligned margin column narrow held column' narrow' held') {f : Nat → Nat}
    (hf : ∀ n, 0 < f n) :
    Aligned margin (f column) (narrow + 1) held (f column') (narrow' + 1) held' := by
  cases h with
  | same hmargin => exact .same hmargin ..
  | behind hmargin _ _ hheld => exact .behind hmargin (hf column) _ hheld ..

/-- A line that is joined to the one before has the indentation of that one, if it had any. -/
theorem Aligned.join (h : Aligned margin column narrow held column' narrow' held') :
    Aligned margin column narrow (held.or (if column = 0 then none else some (column, column)))
      column' narrow' (held'.or (if column' = 0 then none else some (column', column'))) := by
  cases h with
  | same hmargin => exact .same hmargin ..
  | behind hmargin hcolumn _ hheld =>
    refine .behind hmargin hcolumn _ (fun level hlevel => ?_) ..
    cases held with
    | some _ => exact hheld level hlevel
    | none =>
      rw [Option.none_or, if_neg (Nat.ne_of_gt hcolumn)] at hlevel
      exact Option.some.inj hlevel ▸ hcolumn

theorem Aligned.getD (h : Aligned margin column narrow held column' narrow' held') :
    Aligned margin (held.getD (column, narrow)).1 (held.getD (column, narrow)).2 none
      (held'.getD (column', narrow')).1 (held'.getD (column', narrow')).2 none := by
  cases h with
  | same hmargin => exact .same hmargin ..
  | behind hmargin hcolumn _ hheld =>
    refine .behind hmargin ?_ _ (by simp) ..
    cases held with
    | some level => exact hheld level rfl
    | none => exact hcolumn

/-- Behind the margin, where the margin was still to come. -/
theorem Aligned.of_margin {column₁ narrow₁ : Nat}
    (h : Aligned margin (column + margin.length) narrow held column' narrow' held')
    (hnil : margin = [] → column₁ = column ∧ narrow₁ = narrow) (hmore : margin ≠ [] → 0 < column₁) :
    Aligned margin column₁ narrow₁ held column' narrow' held' := by
  by_cases hmargin : margin = []
  · obtain ⟨rfl, rfl⟩ := hnil hmargin
    simpa [hmargin] using h
  · cases h with
    | same hnil => exact absurd hnil hmargin
    | behind _ _ _ hheld => exact .behind hmargin (hmore hmargin) _ hheld ..

theorem Aligned.before_margin (h : Aligned margin column narrow held column' narrow' held') :
    Aligned margin (column + margin.length) narrow held column' narrow' held' := by
  cases h with
  | same hmargin =>
    subst hmargin
    exact .same rfl ..
  | behind hmargin hcolumn _ hheld => exact .behind hmargin (Nat.add_pos_left hcolumn _) _ hheld ..

/-- At the beginning of a line. -/
theorem aligned_start (margin : Text) : Aligned margin (0 + margin.length) 0 none 0 0 none := by
  by_cases hmargin : margin = []
  · subst hmargin
    exact .same rfl ..
  · exact .behind hmargin (Nat.add_pos_right 0 (List.length_pos_iff.mpr hmargin)) _ (by simp) ..

/-- The rest of a line, if the lines below are measured alike. -/
theorem measured_line {joined : Bool} {a b : Text} (h : Dedented margin joined a b)
    (hbelow : joined = true → ∀ {column narrow held column' narrow' held'} (lines : Nat),
      Aligned margin column narrow held column' narrow' held' →
        Measured margin (measureIndent column narrow held (lines + 1) a)
          (measureIndent column' narrow' held' (lines + 1) b))
    (lines : Nat) (halign : Aligned margin column narrow held column' narrow' held') {u : Text}
    (hu : '\n' ∉ u) (hjoined : ['\\'] <:+ u → joined = true)
    (hform : margin = [] ∨ (u.dropWhile isIndent).head? ≠ some '\x0c') :
    Measured margin (measureIndent column narrow held lines (u ++ '\n' :: a))
      (measureIndent column' narrow' held' lines (u ++ '\n' :: b)) := by
  induction u generalizing column narrow column' narrow' with
  | nil => exact .line lines (.inl rfl) (.mk [] (by simp) (by simp) h)
  | cons c u ih =>
    have hmore (hform : margin = [] ∨ (u.dropWhile isIndent).head? ≠ some '\x0c')
        {column narrow column' narrow'}
        (halign : Aligned margin column narrow held column' narrow' held') :=
      ih halign (fun hmem => hu (List.mem_cons_of_mem c hmem))
        (fun hback => hjoined (hback.trans (List.suffix_cons c u))) hform
    by_cases hblank : c = ' '
    · subst hblank
      exact hmore hform (halign.deeper Nat.succ_pos)
    by_cases htab : c = '\t'
    · subst htab
      exact hmore hform (halign.deeper (f := fun n => (n / 8 + 1) * 8) fun n => by omega)
    by_cases hpage : c = '\x0c'
    · subst hpage
      obtain rfl : margin = [] := hform.resolve_right fun hnot => hnot rfl
      cases halign with
      | same hmargin => exact hmore (.inl rfl) (.same hmargin ..)
      | behind hmargin => exact absurd rfl hmargin
    by_cases hback : c = '\\'
    · subst hback
      cases u with
      | nil => exact hbelow (hjoined List.suffix_rfl) lines halign.join
      | cons d v =>
        have hd : d ≠ '\n' := fun heq => hu (heq ▸ by simp)
        rw [List.cons_append, List.cons_append, List.cons_append, List.cons_append,
          measureIndent_backslash hd, measureIndent_backslash hd]
        exact .refused
    · have hline : InStep margin (c :: u ++ '\n' :: a) (c :: u ++ '\n' :: b) :=
        .mk (c :: u) hu hjoined h
      rw [List.cons_append, List.cons_append, measureIndent_of_ne hblank htab hpage hback,
        measureIndent_of_ne hblank htab hpage hback]
      exact .line lines (.inr halign.getD) hline

/-- **The indentation of a line without its margin.** -/
theorem measured_of_dedented (hmargin : margin.all isIndent = true) {joined : Bool} {a b : Text}
    (h : Dedented margin joined a b) {lines : Nat}
    (hlines : lines = 0 ∨ joined = true)
    (halign : Aligned margin (column + margin.length) narrow held column' narrow' held') :
    Measured margin (measureIndent column narrow held lines a)
      (measureIndent column' narrow' held' lines b) := by
  induction h generalizing column narrow held column' narrow' held' lines with
  | nil => exact .ended ..
  | @line joined joined' a b u hu hjoined hform h ih =>
    obtain ⟨column₁, narrow₁, hnil, hmore, hmeasure⟩ := exists_measureIndent_append hmargin column
      narrow held lines (u ++ '\n' :: a)
    rw [hmeasure]
    exact measured_line h (fun hback _ _ _ _ _ _ lines halign =>
      ih (.inr hback) halign.before_margin) lines (halign.of_margin hnil hmore) hu hjoined hform
  | @blank joined a b w hw h ih =>
    obtain ⟨column₁, narrow₁, -, -, hmeasure⟩ := exists_measureIndent_append hw column narrow held
      lines ('\n' :: a)
    rw [hmeasure]
    exact .line lines (.inl rfl) (.mk [] (by simp) (by simp) h)
  | last w hw =>
    obtain rfl : lines = 0 := by simpa using hlines
    obtain ⟨column₁, narrow₁, -, -, hmeasure⟩ := exists_measureIndent_append hw column narrow held
      0 ['\n']
    rw [hmeasure]
    exact .last ..

end

/-! ## One step of cutting -/

/-- The lines below. -/
def linesBelow (t : Text) : Text := (t.dropWhile (· != '\n')).drop 1

theorem dropWhile_line {u : Text} (hu : '\n' ∉ u) (below : Text) :
    (u ++ '\n' :: below).dropWhile (· != '\n') = '\n' :: below := by
  have hline : ∀ c ∈ u, (c != '\n') = true := by
    rintro c hc
    exact bne_iff_ne.mpr fun heq => hu (heq ▸ hc)
  rw [List.dropWhile_append_of_pos hline]
  rfl

theorem InStep.exists_below {margin a b : Text} (h : InStep margin a b) :
    ∃ joined, Dedented margin joined (linesBelow a) (linesBelow b) ∧
      (linesBelow a).length < a.length ∧ (linesBelow b).length < b.length := by
  obtain ⟨u, hu, -, h⟩ := h
  rw [linesBelow, linesBelow, dropWhile_line hu, dropWhile_line hu]
  exact ⟨_, h, by simp; omega, by simp; omega⟩

theorem InStep.exists_cons {margin a b : Text} (h : InStep margin a b) :
    ∃ c r r', a = c :: r ∧ b = c :: r' := by
  obtain ⟨_ | ⟨c, u⟩, hu, -, h⟩ := h
  · exact ⟨_, _, _, rfl, rfl⟩
  · exact ⟨c, _, _, rfl, rfl⟩

section

variable (last n : Nat) (st : Layout)

theorem tokensFrom_dropWhile (t : Text) :
    tokensFrom last n st false (t.dropWhile isGap) = tokensFrom last n st false t := by
  cases n with
  | zero => rfl
  | succ n => rw [tokensFrom, tokensFrom, List.dropWhile_idempotent]

theorem tokensFrom_newline (t : Text) : tokensFrom last (n + 1) st false ('\n' :: t) =
    if st.brackets.isEmpty then .cons (st.token .newline) (tokensFrom last n st.nextLine true t)
    else tokensFrom last n st.nextLine false t := rfl

theorem tokensFrom_comment (t : Text) : tokensFrom last (n + 1) st false ('#' :: t) =
    tokensFrom last n st false (t.dropWhile (· != '\n')) := rfl

theorem tokensFrom_joined {t : Text} (ht : t ≠ []) :
    tokensFrom last (n + 1) st false ('\\' :: '\n' :: t) =
      tokensFrom last n st.nextLine false t := by
  obtain ⟨c, t, rfl⟩ := List.exists_cons_of_ne_nil ht
  rfl

theorem tokens_tokensFrom_backslash {c : Char} (hc : c ≠ '\n') (t : Text) :
    (tokensFrom last (n + 1) st false ('\\' :: c :: t)).tokens = [] := by
  rw [tokensFrom, List.dropWhile_cons_of_neg (by decide)]
  split
  · rfl
  · rename_i heq
    cases heq
  · rename_i heq
    cases heq
  · rfl
  · rename_i heq
    exact absurd (List.cons.inj (List.cons.inj heq).2).1 hc
  · rfl
  · rename_i hne heq
    exact absurd (List.cons.inj heq).1.symm hne

theorem tokensFrom_fresh {column narrow joined : Nat} {c : Char} {t rest : Text}
    (h : measureIndent 0 0 none 0 t = some (column, narrow, joined, c :: rest)) :
    tokensFrom last (n + 1) st true t =
      if c = '#' ∨ c = '\n' then
        tokensFrom last n { st with line := st.line + joined }.nextLine true
          (linesBelow (c :: rest))
      else
        match indentMarks { st with line := st.line + joined } column narrow with
        | .error fault => .stop fault
        | .ok (marks, st) =>
          let more := tokensFrom last n st false (c :: rest)
          { more with tokens := marks ++ more.tokens } := by
  rw [tokensFrom, h]
  rfl

/-- At the end of the text, every indentation ends. -/
theorem bare_tokensFrom_ended {column narrow joined : Nat} {t : Text}
    (h : measureIndent 0 0 none 0 t = some (column, narrow, joined, [])) :
    (tokensFrom last (n + 1) st true t).tokens.map Token.bare =
      if joined = 0 then
        st.indents.map (fun _ => (TokenKind.dedent, st.brackets.length)) ++
          [(TokenKind.finish, st.brackets.length)]
      else [] := by
  rw [tokensFrom, h]
  dsimp only
  split
  · simp [Token.bare, Layout.token]
  · rfl

end

/-! ## Cutting code without a margin -/

/-- Where cutting may have come to in two texts: to the beginning of a line, outside of brackets
(`fresh`), or inside of them or behind a backslash, or else to the rest of a line. -/
inductive Going (st : Layout) : (fresh : Bool) → Text → Text → Prop where
  | line {joined : Bool} {a b : Text} (h : Dedented [] joined a b) : Going st true a b
  | inside {joined : Bool} {a b : Text} (hinside : joined = true ∨ st.brackets.isEmpty = false)
      (h : Dedented [] joined a b) : Going st false a b
  | within {a b : Text} (h : InStep [] a b) : Going st false a b

/-- The same tokens but for their lines, unless a line of blanks stands in one of the first. -/
def SameCut (p q : Lexed) : Prop :=
  (∀ token ∈ p.tokens, token.Compact) → p.tokens.map Token.bare = q.tokens.map Token.bare

theorem sameCut_stop (fault fault' : LexFault) : SameCut (.stop fault) (.stop fault') :=
  fun _ => rfl

theorem SameCut.cons {p q : Lexed} (token : Token) (h : SameCut p q) :
    SameCut (.cons token p) (.cons token q) := by
  intro hcompact
  have hmore := h fun token' htoken => hcompact token' (List.mem_cons_of_mem _ htoken)
  exact congrArg (token.bare :: ·) hmore

theorem SameCut.append {p q : Lexed} (marks : List Token) (h : SameCut p q) :
    SameCut { p with tokens := marks ++ p.tokens } { q with tokens := marks ++ q.tokens } := by
  intro hcompact
  rw [List.map_append, List.map_append, h fun token htoken =>
    hcompact token (List.mem_append_right _ htoken)]

/-- Cutting two texts gives the same tokens wherever it may have come to, if fuel suffices, which
for the first text is `n`. -/
def SameTokens (last last' n : Nat) : Prop :=
  ∀ {n' : Nat} {st : Layout} {fresh : Bool} {a b : Text}, Going st fresh a b →
    2 * a.length + fresh.toNat < n → 2 * b.length + fresh.toNat < n' →
    SameCut (tokensFrom last n st fresh a) (tokensFrom last' n' st fresh b)

section

variable {last last' n n' : Nat} {st : Layout} {a b : Text}

/-- Behind a backslash, no line is missing. -/
theorem Dedented.eq_nil_iff {margin : Text} (h : Dedented margin true a b) : a = [] ↔ b = [] := by
  cases h <;> simp

/-- A line ends. -/
theorem sameCut_newline (ih : SameTokens last last' n) {joined : Bool} (h : Dedented [] joined a b)
    (ha : 2 * a.length + 1 < n) (hb : 2 * b.length + 1 < n') :
    SameCut (tokensFrom last (n + 1) st false ('\n' :: a))
      (tokensFrom last' (n' + 1) st false ('\n' :: b)) := by
  rw [tokensFrom_newline, tokensFrom_newline]
  split
  · exact .cons _ (ih (.line h) ha hb)
  · rename_i hbrackets
    exact ih (.inside (.inr (Bool.eq_false_iff.mpr hbrackets)) h) (by simp; omega) (by simp; omega)

/-- A backslash joins a line, or stands where none can. -/
theorem sameCut_backslash (ih : SameTokens last last' n) {joined : Bool}
    (h : Dedented [] joined a b) {u : Text} (hu : '\n' ∉ u)
    (hjoined : ['\\'] <:+ '\\' :: u → joined = true)
    (ha : 2 * a.length < n) (hb : 2 * b.length < n') :
    SameCut (tokensFrom last (n + 1) st false ('\\' :: (u ++ '\n' :: a)))
      (tokensFrom last' (n' + 1) st false ('\\' :: (u ++ '\n' :: b))) := by
  cases u with
  | nil =>
    obtain rfl := hjoined List.suffix_rfl
    rw [List.nil_append, List.nil_append]
    by_cases hnil : a = []
    · rw [hnil, h.eq_nil_iff.mp hnil]
      exact sameCut_stop _ _
    · rw [tokensFrom_joined _ _ _ hnil, tokensFrom_joined _ _ _ (hnil ∘ h.eq_nil_iff.mpr)]
      exact ih (.inside (.inl rfl) h) ha hb
  | cons c u =>
    have hc : c ≠ '\n' := fun heq => hu (heq ▸ List.mem_cons_self)
    intro _
    rw [List.cons_append, List.cons_append, tokens_tokensFrom_backslash _ _ _ hc,
      tokens_tokensFrom_backslash _ _ _ hc]

/-- A token is read. -/
theorem sameCut_readToken (ih : SameTokens last last' n) {joined : Bool}
    (h : Dedented [] joined a b) {c : Char} (hgap : isGap c = false) (hcomment : c ≠ '#')
    (hnewline : c ≠ '\n') (hback : c ≠ '\\') {u : Text} (hu : '\n' ∉ u)
    (hjoined : ['\\'] <:+ u → joined = true)
    (ha : 2 * (u ++ '\n' :: a).length < n) (hb : 2 * (u ++ '\n' :: b).length < n') :
    SameCut (tokensFrom last (n + 1) st false (c :: (u ++ '\n' :: a)))
      (tokensFrom last' (n' + 1) st false (c :: (u ++ '\n' :: b))) := by
  have hread := readsMatch_readToken h st last last' c hu hjoined
  rw [tokensFrom_readToken hgap hcomment hnewline hback,
    tokensFrom_readToken hgap hcomment hnewline hback]
  cases hresult : readToken st last c (u ++ '\n' :: a) with
  | error fault =>
    rw [hresult] at hread
    obtain ⟨fault', hread⟩ := hread
    rw [hread]
    exact sameCut_stop fault fault'
  | ok read =>
    obtain ⟨token, st', rest⟩ := read
    rw [hresult] at hread
    intro hcompact
    obtain ⟨rest', hread, hstep⟩ := hread (hcompact token List.mem_cons_self)
    have hshorta := length_le_of_readToken hresult
    have hshortb := length_le_of_readToken hread
    rw [hread]
    exact SameCut.cons token (ih (.within hstep) (by simp; omega) (by simp; omega)) hcompact

/-- Cutting goes on in the rest of a line. -/
theorem sameCut_within (ih : SameTokens last last' n) (h : InStep [] a b)
    (ha : 2 * a.length < n + 1) (hb : 2 * b.length < n' + 1) :
    SameCut (tokensFrom last (n + 1) st false a) (tokensFrom last' (n' + 1) st false b) := by
  obtain ⟨u, hu, hjoined, h⟩ := h
  -- blanks between tokens are skipped first
  have hgap (below : Text) : (u ++ '\n' :: below).dropWhile isGap =
      u.dropWhile isGap ++ '\n' :: below := dropWhile_append_newline (by decide) u below
  have hsuffix : u.dropWhile isGap <:+ u := List.dropWhile_suffix isGap
  have hshort := hsuffix.length_le
  have hfirst (c : Char) (v : Text) (hv : u.dropWhile isGap = c :: v) : isGap c = false := by
    have hne : u.dropWhile isGap ≠ [] := by simp [hv]
    have hhead := List.head_dropWhile_not isGap hne
    simpa only [hv, List.head_cons] using hhead
  rw [← tokensFrom_dropWhile, hgap, ← tokensFrom_dropWhile last', hgap]
  replace hu : '\n' ∉ u.dropWhile isGap := fun hmem => hu (hsuffix.subset hmem)
  replace hjoined := fun hback : ['\\'] <:+ u.dropWhile isGap => hjoined (hback.trans hsuffix)
  simp only [List.length_append, List.length_cons] at ha hb
  generalize u.dropWhile isGap = v at *
  cases v with
  | nil => exact sameCut_newline ih h (by omega) (by omega)
  | cons c v =>
    rw [List.length_cons] at hshort
    have hc : c ≠ '\n' := fun heq => hu (heq ▸ List.mem_cons_self)
    have hv : '\n' ∉ v := fun hmem => hu (List.mem_cons_of_mem c hmem)
    rw [List.cons_append, List.cons_append]
    by_cases hcomment : c = '#'
    · subst hcomment
      rw [tokensFrom_comment, tokensFrom_comment, dropWhile_line hv, dropWhile_line hv]
      exact ih (.within (.mk [] (by simp) (by simp) h)) (by simp; omega) (by simp; omega)
    by_cases hback : c = '\\'
    · subst hback
      exact sameCut_backslash ih h hv hjoined (by omega) (by omega)
    · exact sameCut_readToken ih h (hfirst c v rfl) hcomment hc hback hv
        (fun hend => hjoined (hend.trans (List.suffix_cons c v))) (by simp; omega) (by simp; omega)

/-- Cutting goes on at the beginning of a line, inside brackets or behind a backslash. -/
theorem sameCut_inside (ih : SameTokens last last' n) {joined : Bool}
    (hinside : joined = true ∨ st.brackets.isEmpty = false) (h : Dedented [] joined a b)
    (ha : 2 * a.length < n + 1) (hb : 2 * b.length < n' + 1) :
    SameCut (tokensFrom last (n + 1) st false a) (tokensFrom last' (n' + 1) st false b) := by
  have hblanks {w : Text} (hw : w.all isIndent = true) (below : Text) :
      tokensFrom last (n + 1) st false (w ++ '\n' :: below) =
        tokensFrom last (n + 1) st false ('\n' :: below) := by
    have hgap : ∀ c ∈ w, isGap c = true := by
      intro c hc
      have hindent := List.all_eq_true.mp hw c hc
      simp only [isIndent, isGap, Bool.or_eq_true] at hindent ⊢
      exact .inl hindent
    rw [← tokensFrom_dropWhile, List.dropWhile_append_of_pos hgap]
    rfl
  cases h with
  | nil => exact fun _ => rfl
  | line u hu hjoined _ h => exact sameCut_within ih (.mk u hu hjoined h) ha hb
  | blank w hw h =>
    rw [hblanks hw]
    simp only [List.length_append, List.length_cons] at ha hb
    exact sameCut_newline ih h (by omega) (by omega)
  | last w hw =>
    rw [hblanks hw, tokensFrom_newline, if_neg (by simpa using hinside)]
    cases n <;> exact fun _ => rfl

/-- Cutting goes on at the beginning of a line. -/
theorem sameCut_line (ih : SameTokens last last' n) {joined : Bool} (h : Dedented [] joined a b)
    (ha : 2 * a.length + 1 < n + 1) (hb : 2 * b.length + 1 < n' + 1) :
    SameCut (tokensFrom last (n + 1) st true a) (tokensFrom last' (n' + 1) st true b) := by
  have hmeasured := measured_of_dedented rfl h (.inl rfl) (aligned_start [])
  generalize hoa : measureIndent 0 0 none 0 a = o, hob : measureIndent 0 0 none 0 b = o'
    at hmeasured
  cases hmeasured with
  | refused =>
    rw [tokensFrom, hoa, tokensFrom, hob]
    exact sameCut_stop _ _
  | ended column narrow column' narrow' lines =>
    intro _
    rw [bare_tokensFrom_ended _ _ _ hoa, bare_tokensFrom_ended _ _ _ hob]
  | last column narrow column' narrow' =>
    intro _
    obtain ⟨m, rfl⟩ : ∃ m, n = m + 1 := ⟨n - 1, by omega⟩
    rw [tokensFrom_fresh last _ st hoa, if_pos (.inr rfl), bare_tokensFrom_ended _ _ _ hob]
    exact bare_tokensFrom_ended last m _ (rfl : measureIndent 0 0 none 0 [] = some (0, 0, 0, []))
  | line lines halign h' =>
    have hshorta := (isSuffix_of_measureIndent hoa).length_le
    have hshortb := (isSuffix_of_measureIndent hob).length_le
    obtain ⟨joined', hbelow, hlessa, hlessb⟩ := h'.exists_below
    obtain ⟨c, r, r', rfl, rfl⟩ := h'.exists_cons
    rw [tokensFrom_fresh last _ st hoa, tokensFrom_fresh last' _ st hob]
    by_cases hskip : c = '#' ∨ c = '\n'
    · rw [if_pos hskip, if_pos hskip]
      exact ih (.line hbelow) (by simp; omega) (by simp; omega)
    · rw [if_neg hskip, if_neg hskip]
      cases halign.resolve_left fun hhead => hskip (.inr (Option.some.inj hhead)) with
      | behind hmargin => exact absurd rfl hmargin
      | same =>
        generalize indentMarks _ _ _ = marked
        cases marked with
        | error fault => exact sameCut_stop fault fault
        | ok marked =>
          exact .append marked.1 (ih (.within h') (by simp at *; omega) (by simp at *; omega))

end

/-- **Code without its blank lines has the same tokens**, but for their lines, if no such line
stands in a string. -/
theorem sameTokens (last last' n : Nat) : SameTokens last last' n := by
  induction n with
  | zero =>
    intro _ _ _ _ _ _ ha
    omega
  | succ n ih =>
    intro n' st fresh a b hgoing ha hb
    obtain ⟨n', rfl⟩ : ∃ m, n' = m + 1 := ⟨n' - 1, by omega⟩
    cases hgoing with
    | line h => exact sameCut_line ih h ha hb
    | inside hinside h => exact sameCut_inside ih hinside h ha hb
    | within h => exact sameCut_within ih h ha hb

/-! ## Cutting code with a margin -/

/-- Code begins with no mark of indentation. -/
theorem exists_first_of_parse {t : Text} {ss : List Stmt} (h : parse t = .ok ss) :
    ∃ token ∈ (tokens t).tokens.head?, token.kind ≠ .indent := by
  obtain ⟨-, hreads, -⟩ := readsAs_of_parse h
  obtain ⟨u, us, hu, -⟩ := hreads.goesOn
  obtain ⟨token, more, htokens, rfl, -⟩ := List.map_eq_cons_iff.mp hu
  exact ⟨token, by rw [htokens]; rfl, hreads.ne_indent token.bare (by rw [hu]; rfl)⟩

/-- The first line of code is indented, if it is indented at all, with a mark of its own. -/
theorem indentMarks_of_pos {st : Layout} {column : Nat} (hst : st.indents = []) (hpos : 0 < column)
    (narrow : Nat) :
    (∃ fault, indentMarks st column narrow = .error fault) ∨
      ∃ st', indentMarks st column narrow = .ok ([st.token .indent], st') := by
  have hindent : st.indent = (0, 0) := by rw [Layout.indent, hst]; rfl
  rw [indentMarks, hindent]
  dsimp only
  rw [if_neg (Nat.ne_of_gt hpos), if_pos hpos, if_neg (by simp [hst])]
  split
  · exact .inl ⟨_, rfl⟩
  · exact .inr ⟨_, rfl⟩

/-- Code with a margin is refused for it, or it has no more tokens than without the margin. -/
theorem sameTokens_margin {margin : Text} (hindent : margin.all isIndent = true)
    (hmargin : margin ≠ []) (last last' : Nat) {n n' : Nat} {st : Layout} {joined : Bool}
    {a b : Text} (h : Dedented margin joined a b) (hst : st.indents = [])
    (ha : a.length < n) (hb : b.length < n') :
    (∀ token ∈ (tokensFrom last n st true a).tokens.head?, token.kind = .indent) ∨
      (tokensFrom last n st true a).tokens.map Token.bare =
        (tokensFrom last' n' st true b).tokens.map Token.bare := by
  induction n generalizing n' st joined a b with
  | zero => omega
  | succ n ih =>
    obtain ⟨n', rfl⟩ : ∃ m, n' = m + 1 := ⟨n' - 1, by omega⟩
    have hmeasured := measured_of_dedented hindent h (.inl rfl) (aligned_start margin)
    generalize hoa : measureIndent 0 0 none 0 a = o, hob : measureIndent 0 0 none 0 b = o'
      at hmeasured
    cases hmeasured with
    | refused =>
      left
      rw [tokensFrom, hoa]
      simp [Lexed.stop]
    | ended column narrow column' narrow' lines =>
      right
      rw [bare_tokensFrom_ended _ _ _ hoa, bare_tokensFrom_ended _ _ _ hob]
    | last column narrow column' narrow' =>
      right
      rw [tokensFrom_fresh last _ st hoa, if_pos (.inr rfl), bare_tokensFrom_ended _ _ _ hob]
      have hlength := (isSuffix_of_measureIndent hoa).length_le
      obtain ⟨m, rfl⟩ : ∃ m, n = m + 1 := ⟨n - 1, by simp at hlength; omega⟩
      exact bare_tokensFrom_ended last m _ (rfl : measureIndent 0 0 none 0 [] = some (0, 0, 0, []))
    | line lines halign h' =>
      have hshorta := (isSuffix_of_measureIndent hoa).length_le
      have hshortb := (isSuffix_of_measureIndent hob).length_le
      obtain ⟨joined', hbelow, hlessa, hlessb⟩ := h'.exists_below
      obtain ⟨c, r, r', rfl, rfl⟩ := h'.exists_cons
      rw [tokensFrom_fresh last _ st hoa, tokensFrom_fresh last' _ st hob]
      by_cases hskip : c = '#' ∨ c = '\n'
      · rw [if_pos hskip, if_pos hskip]
        exact ih hbelow hst (by omega) (by omega)
      · left
        rw [if_neg hskip]
        cases halign.resolve_left fun hhead => hskip (.inr (Option.some.inj hhead)) with
        | same hnil => exact absurd hnil hmargin
        | behind _ hcolumn =>
          obtain ⟨fault, hmarks⟩ | ⟨st', hmarks⟩ := indentMarks_of_pos
            (show { st with line := st.line + lines }.indents = [] from hst) hcolumn _
          all_goals
            rw [hmarks]
            simp [Lexed.stop, Layout.token]

/-- **Code that can be read has the same tokens without its margin and its blank lines**, but for
their lines, if no such line stands in a string. -/
theorem bare_tokens_of_dedented {margin t t' : Text} {ss : List Stmt}
    (hindent : margin.all isIndent = true) (h : Dedented margin false (codeLines t) (codeLines t'))
    (hparse : parse t = .ok ss)
    (hcompact : ∀ token ∈ (tokens t).tokens, token.Compact) :
    (tokens t').tokens.map Token.bare = (tokens t).tokens.map Token.bare := by
  by_cases hmargin : margin = []
  · subst hmargin
    exact (sameTokens _ _ _ (.line h) (by simp) (by simp) hcompact).symm
  · obtain ⟨token, htoken, hkind⟩ := exists_first_of_parse hparse
    have hcases : (∀ token ∈ (tokens t).tokens.head?, token.kind = .indent) ∨
        (tokens t).tokens.map Token.bare = (tokens t').tokens.map Token.bare :=
      sameTokens_margin hindent hmargin _ _ h rfl (by omega) (by omega)
    obtain hrefused | hsame := hcases
    · exact absurd (hrefused token htoken) hkind
    · exact hsame.symm

end Stencil.Code
