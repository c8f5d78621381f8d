import Stencil.Proofs.Blind.Parser
import Stencil.Proofs.Code.Word

/-!
# Layouts on other lines

What cutting does to the layout: the marks of a line and the tokens on it. Which lines they are does
not matter, as long as the indentations in force and the open brackets are the same.

* `indentMarks_cases`: what the marks for a line may be.
* `exists_indentMarks_of_alike`: the marks for another line.
* `readsAlike_readToken`: a token on another line.
-/

namespace Stencil.Code

/-! ## Layouts that differ in lines -/

namespace Layout

/-- The same indentations and the same open brackets, on any lines. -/
structure Alike (st st' : Layout) : Prop where
  indents : st'.indents = st.indents
  brackets : st'.brackets.map Prod.fst = st.brackets.map Prod.fst

variable {st st' : Layout}

theorem Alike.nextLine (h : Alike st st') : Alike st.nextLine st'.nextLine :=
  ⟨h.indents, h.brackets⟩

theorem Alike.addLines (h : Alike st st') (lines lines' : Nat) :
    Alike { st with line := st.line + lines } { st' with line := st'.line + lines' } :=
  ⟨h.indents, h.brackets⟩

theorem Alike.length_brackets (h : Alike st st') : st'.brackets.length = st.brackets.length := by
  rw [← List.length_map Prod.fst, h.brackets, List.length_map]

theorem Alike.brackets_eq_nil_iff (h : Alike st st') : st'.brackets = [] ↔ st.brackets = [] := by
  rw [← List.length_eq_zero_iff, h.length_brackets, List.length_eq_zero_iff]

theorem Alike.bare_token (h : Alike st st') (kind : TokenKind) :
    (st'.token kind).bare = (st.token kind).bare :=
  congrArg (kind, ·) h.length_brackets

/-- Outside of brackets, with levels of indentation that are really indented. -/
structure Outside (st : Layout) : Prop where
  brackets : st.brackets = []
  indents : ∀ level ∈ st.indents, 0 < level.1

end Layout

open Layout (Alike Outside)

/-- The marks for the ends of all indentations. -/
def dedents (st : Layout) : List (TokenKind × Nat) := st.indents.map fun _ => (.dedent, 0)

section

variable {st st' : Layout} {column narrow : Nat} {marks : List Token}

/-- What the marks for a line may be. -/
theorem indentMarks_cases (h : indentMarks st column narrow = .ok (marks, st')) :
    (column, narrow) = st.indent ∧ marks = [] ∧ st' = st ∨
      st.indent.1 < column ∧ marks = [st.token .indent] ∧
        st' = { st with indents := (column, narrow) :: st.indents } ∨
      column < st.indent.1 ∧ ∃ kept n, kept <:+ st.indents ∧
        marks = List.replicate n (st.token .dedent) ∧ st' = { st with indents := kept } := by
  unfold indentMarks at h
  dsimp only at h
  split at h
  · rename_i hcolumn
    split at h
    · rename_i hnarrow
      obtain ⟨rfl, rfl⟩ := Prod.mk.inj (Except.ok.inj h)
      exact .inl ⟨Prod.ext hcolumn hnarrow, rfl, rfl⟩
    · cases h
  · rename_i hne
    split at h
    · rename_i hdeeper
      split at h
      · cases h
      split at h
      · cases h
      obtain ⟨rfl, rfl⟩ := Prod.mk.inj (Except.ok.inj h)
      exact .inr (.inl ⟨hdeeper, rfl, rfl⟩)
    · rename_i hdeeper
      split at h
      · cases h
      split at h
      · cases h
      obtain ⟨rfl, rfl⟩ := Prod.mk.inj (Except.ok.inj h)
      have hless : column < st.indent.1 := Nat.lt_of_le_of_ne (Nat.le_of_not_lt hdeeper) hne
      exact .inr (.inr ⟨hless, _, _, List.dropWhile_suffix _, rfl, rfl⟩)

theorem positive_of_indentMarks (hst : ∀ level ∈ st.indents, 0 < level.1)
    (h : indentMarks st column narrow = .ok (marks, st')) : ∀ level ∈ st'.indents, 0 < level.1 := by
  obtain ⟨-, -, rfl⟩ | ⟨hdeeper, -, rfl⟩ | ⟨-, kept, n, hkept, -, rfl⟩ := indentMarks_cases h
  · exact hst
  · exact List.forall_mem_cons.mpr ⟨Nat.zero_lt_of_lt hdeeper, hst⟩
  · exact fun level hlevel => hst level (hkept.subset hlevel)

theorem ne_finish_of_indentMarks (h : indentMarks st column narrow = .ok (marks, st')) :
    ∀ t ∈ marks.map Token.bare, t.1 ≠ .finish := by
  obtain ⟨-, rfl, -⟩ | ⟨-, rfl, -⟩ | ⟨-, kept, n, -, rfl, -⟩ := indentMarks_cases h
  · simp
  · simp [Token.bare, Layout.token]
  · intro t ht
    rw [List.map_replicate] at ht
    rw [List.eq_of_mem_replicate ht]
    exact nofun

/-- The marks for a line do not depend on which line it is. -/
theorem exists_indentMarks_of_alike {st₂ : Layout} (halike : Alike st st₂)
    (h : indentMarks st column narrow = .ok (marks, st')) :
    ∃ marks₂ st₂', indentMarks st₂ column narrow = .ok (marks₂, st₂') ∧
      marks₂.map Token.bare = marks.map Token.bare ∧ Alike st' st₂' := by
  obtain ⟨line, indents, brackets⟩ := st
  obtain ⟨line₂, indents₂, brackets₂⟩ := st₂
  have hindents : indents₂ = indents := halike.indents
  subst hindents
  have hbare := halike.bare_token
  unfold indentMarks Layout.indent at h ⊢
  dsimp only at h ⊢
  split at h
  · split at h
    · rename_i hcolumn hnarrow
      obtain ⟨rfl, rfl⟩ := Prod.mk.inj (Except.ok.inj h)
      rw [if_pos hcolumn, if_pos hnarrow]
      exact ⟨_, _, rfl, rfl, halike⟩
    · cases h
  · rename_i hcolumn
    rw [if_neg hcolumn]
    split at h
    · rename_i hdeeper
      rw [if_pos hdeeper]
      split at h
      · cases h
      split at h
      · cases h
      rename_i hlevels hmixed
      obtain ⟨rfl, rfl⟩ := Prod.mk.inj (Except.ok.inj h)
      rw [if_neg hlevels, if_neg hmixed]
      exact ⟨_, _, rfl, congrArg ([·]) (hbare .indent), rfl, halike.brackets⟩
    · rename_i hdeeper
      rw [if_neg hdeeper]
      split at h
      · cases h
      split at h
      · cases h
      rename_i houter hmixed
      obtain ⟨rfl, rfl⟩ := Prod.mk.inj (Except.ok.inj h)
      rw [if_neg houter, if_neg hmixed]
      refine ⟨_, _, rfl, ?_, rfl, halike.brackets⟩
      rw [List.map_replicate, List.map_replicate, hbare .dedent]

/-- A line that is not indented ends all indentations. -/
theorem indentMarks_zero (hst : Outside st) :
    ∃ marks, indentMarks st 0 0 = .ok (marks, { st with indents := [] }) ∧
      marks.map Token.bare = dedents st := by
  obtain ⟨line, indents, brackets⟩ := st
  have hbrackets : brackets = [] := hst.brackets
  subst hbrackets
  unfold indentMarks Layout.indent dedents
  cases indents with
  | nil => exact ⟨[], rfl, rfl⟩
  | cons level indents =>
    have hpos : ∀ level' ∈ level :: indents, 0 < level'.1 := hst.indents
    have hkept : (level :: indents).dropWhile (fun level' => decide (0 < level'.1)) = [] :=
      List.dropWhile_eq_nil_iff.mpr fun level' hlevel => by simpa using hpos level' hlevel
    have hlevel : 0 < level.1 := hpos level List.mem_cons_self
    dsimp only [List.headD_cons]
    rw [if_neg (Nat.ne_of_lt hlevel), if_neg (Nat.not_lt_zero _), hkept]
    refine ⟨_, rfl, ?_⟩
    rw [List.map_replicate, List.map_const']
    rfl

end

/-! ## Tokens on other lines -/

section

variable {st st' : Layout} {last : Nat} {c : Char} {t rest : Text} {token : Token}

theorem kind_of_wordToken {word : Text} {kind : TokenKind} (h : wordToken word = .ok kind) :
    kind ≠ .finish := by
  unfold wordToken at h
  split at h
  · cases h
  · split at h
    all_goals
      obtain rfl := Except.ok.inj h
      exact TokenKind.noConfusion

/-- What reading a token does to the layout, and that it does not depend on lines. -/
def ReadsAlike (st : Layout) (token : Token) (st' : Layout)
    (read : Layout → Except LexFault (Token × Layout × Text)) (rest : Text) : Prop :=
  token.kind ≠ .finish ∧ st'.indents = st.indents ∧ ∀ st₂, Alike st st₂ →
    ∃ token₂ st₂', read st₂ = .ok (token₂, st₂', rest) ∧ token₂.bare = token.bare ∧ Alike st' st₂'

theorem readsAlike_token {read : Layout → Except LexFault (Token × Layout × Text)}
    {kind : TokenKind} (hkind : kind ≠ .finish)
    (h : ∀ st₂, read st₂ = .ok (st₂.token kind, st₂, rest)) :
    ReadsAlike st (st.token kind) st read rest :=
  ⟨hkind, rfl, fun st₂ halike => ⟨_, _, h st₂, halike.bare_token kind, halike⟩⟩

theorem readsAlike_readSymbol (h : readSymbol st c t = .ok (token, st', rest)) :
    ReadsAlike st token st' (fun st₂ => readSymbol st₂ c t) rest := by
  unfold readSymbol at h ⊢
  split at h
  · obtain ⟨rfl, rfl, rfl⟩ : _ ∧ _ ∧ _ := by simpa using h
    exact readsAlike_token nofun fun _ => rfl
  dsimp only at h ⊢
  split at h
  · rename_i hopen
    simp only [if_pos hopen]
    split at h
    · cases h
    rename_i hcount
    obtain ⟨rfl, rfl, rfl⟩ : _ ∧ _ ∧ _ := by simpa using h
    refine ⟨nofun, rfl, fun st₂ halike => ?_⟩
    have hinner : Alike { st with brackets := (c, st.line) :: st.brackets }
        { st₂ with brackets := (c, st₂.line) :: st₂.brackets } :=
      ⟨halike.indents, congrArg (c :: ·) halike.brackets⟩
    exact ⟨_, _, if_neg (by rwa [halike.length_brackets]), hinner.bare_token _, hinner⟩
  rename_i hopen
  simp only [if_neg hopen]
  split at h
  · rename_i hclose
    simp only [if_pos hclose]
    cases hbrackets : st.brackets with
    | nil =>
      rw [hbrackets] at h
      cases h
    | cons bracket outer =>
      rw [hbrackets] at h
      dsimp only at h
      split at h
      · rename_i hpair
        obtain ⟨rfl, rfl, rfl⟩ : _ ∧ _ ∧ _ := by simpa using h
        refine ⟨nofun, rfl, fun st₂ halike => ?_⟩
        have hsame := halike.brackets
        rw [hbrackets, List.map_cons] at hsame
        obtain ⟨bracket₂, outer₂, hbrackets₂, hbracket, houter⟩ := List.map_eq_cons_iff.mp hsame
        have houtside : Alike { st with brackets := outer } { st₂ with brackets := outer₂ } :=
          ⟨halike.indents, houter⟩
        simp only [hbrackets₂, hbracket, if_pos hpair]
        exact ⟨_, _, rfl, houtside.bare_token _, houtside⟩
      · cases h
  rename_i hclose
  simp only [if_neg hclose]
  split at h
  · rename_i hprintable
    obtain ⟨rfl, rfl, rfl⟩ : _ ∧ _ ∧ _ := by simpa using h
    simp only [if_pos hprintable]
    exact readsAlike_token nofun fun _ => rfl
  · cases h

/-- **A token is read whatever line it stands on.** -/
theorem readsAlike_readToken (h : readToken st last c t = .ok (token, st', rest)) (last₂ : Nat) :
    ReadsAlike st token st' (fun st₂ => readToken st₂ last₂ c t) rest := by
  unfold readToken at h ⊢
  cases hstart : stringStart? (c :: t) with
  | some start =>
    simp only [hstart] at h ⊢
    split at h
    · simp only [Except.ok.injEq, Prod.mk.injEq] at h
      obtain ⟨rfl, rfl, rfl⟩ := h
      refine ⟨nofun, rfl, fun st₂ halike => ?_⟩
      exact ⟨_, _, rfl, halike.bare_token _, halike.addLines ..⟩
    · cases h
  | none =>
    simp only [hstart] at h ⊢
    split at h
    · rename_i hword
      simp only [if_pos hword]
      split at h
      · rename_i kind hkind
        simp only [Except.ok.injEq, Prod.mk.injEq] at h
        obtain ⟨rfl, rfl, rfl⟩ := h
        exact readsAlike_token (kind_of_wordToken hkind) fun _ => rfl
      · cases h
    rename_i hword
    simp only [if_neg hword]
    split at h
    · rename_i hdigit
      simp only [if_pos hdigit]
      split at h
      · simp only [Except.ok.injEq, Prod.mk.injEq] at h
        obtain ⟨rfl, rfl, rfl⟩ := h
        exact readsAlike_token nofun fun _ => rfl
      · cases h
    · rename_i hdigit
      simp only [if_neg hdigit]
      exact readsAlike_readSymbol h

/-- What is read does not depend on how many lines there are. -/
theorem readToken_of_last {read : Token × Layout × Text}
    (h : readToken st last c t = .ok read) (last' : Nat) : readToken st last' c t = .ok read := by
  unfold readToken at h ⊢
  split at h
  · dsimp only at h ⊢
    split at h
    · exact h
    · cases h
  · exact h

end

end Stencil.Code
