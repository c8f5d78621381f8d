import Stencil.Proofs.Blind.Text
import Stencil.Proofs.Code.Ended
import Stencil.Proofs.Code.Layout

/-!
# Cutting one text behind the other

`Cut` says what tokens a text is cut into, rule by rule, without a bound on the steps. Where code
ends, other code may follow: the tokens of the first come first, with all its indentations ended,
and those of the second are the ones that it has by itself.

* `cut_of_tokensFrom`, `Cut.bare_tokensFrom`: the rules are those of `tokensFrom`.
* `Cut.alike`: lines do not matter.
* `Cut.exists_append`: one text behind the other.
* `Follows`: what may stand below any lines.
-/

namespace Stencil.Code

open Layout (Alike Outside)
open Stencil.Code.Parser (Lines endMark)

/-! ## The rules of cutting -/

/-- **A text is cut into these tokens**, from the given layout on. -/
inductive Cut : Layout → (fresh : Bool) → Text → List (TokenKind × Nat) → Prop where
  | ended {st : Layout} (hst : st.brackets = []) : Cut st true [] (dedents st ++ [endMark])
  | skip {st : Layout} {t rest : Text} {column narrow lines : Nat} {c : Char}
      {ts : List (TokenKind × Nat)}
      (hmeasure : measureIndent 0 0 none 0 t = some (column, narrow, lines, c :: rest))
      (hskip : c = '#' ∨ c = '\n')
      (h : Cut { st with line := st.line + lines }.nextLine true (linesBelow (c :: rest)) ts) :
      Cut st true t ts
  | line {st st' : Layout} {t rest : Text} {column narrow lines : Nat} {c : Char}
      {marks : List Token} {ts : List (TokenKind × Nat)}
      (hmeasure : measureIndent 0 0 none 0 t = some (column, narrow, lines, c :: rest))
      (hline : ¬ (c = '#' ∨ c = '\n'))
      (hmarks : indentMarks { st with line := st.line + lines } column narrow = .ok (marks, st'))
      (h : Cut st' false (c :: rest) ts) : Cut st true t (marks.map Token.bare ++ ts)
  | gap {st : Layout} {c : Char} {t : Text} {ts : List (TokenKind × Nat)} (hc : isGap c = true)
      (h : Cut st false t ts) : Cut st false (c :: t) ts
  | comment {st : Layout} {t : Text} {ts : List (TokenKind × Nat)}
      (h : Cut st false (t.dropWhile (· != '\n')) ts) : Cut st false ('#' :: t) ts
  | newline {st : Layout} {t : Text} {ts : List (TokenKind × Nat)} (hst : st.brackets = [])
      (h : Cut st.nextLine true t ts) : Cut st false ('\n' :: t) ((.newline, 0) :: ts)
  | inside {st : Layout} {t : Text} {ts : List (TokenKind × Nat)} (hst : st.brackets ≠ [])
      (h : Cut st.nextLine false t ts) : Cut st false ('\n' :: t) ts
  | joined {st : Layout} {t : Text} {ts : List (TokenKind × Nat)} (ht : t ≠ [])
      (h : Cut st.nextLine false t ts) : Cut st false ('\\' :: '\n' :: t) ts
  | token {st st' : Layout} {c : Char} {t rest : Text} {token : Token}
      {ts : List (TokenKind × Nat)} (hgap : isGap c = false) (hcomment : c ≠ '#')
      (hnewline : c ≠ '\n') (hback : c ≠ '\\')
      (hread : ∀ last, readToken st last c t = .ok (token, st', rest)) (hrest : rest <:+ t)
      (h : Cut st' false rest ts) : Cut st false (c :: t) (token.bare :: ts)

theorem Cut.of_dropWhile {st : Layout} {t : Text} {ts : List (TokenKind × Nat)}
    (h : Cut st false (t.dropWhile isGap) ts) : Cut st false t ts := by
  induction t with
  | nil => exact h
  | cons c t ih =>
    by_cases hc : isGap c = true
    · rw [List.dropWhile_cons_of_pos hc] at h
      exact .gap hc (ih h)
    · rwa [List.dropWhile_cons_of_neg hc] at h

/-! ### The rules are sound -/

/-- What is cut up to its end is cut by the rules, if `n` steps suffice for it. -/
def CutsWhole (last n : Nat) : Prop :=
  ∀ {st : Layout} {fresh : Bool} {t : Text}, Ended t → (fresh = true → st.brackets = []) →
    (∃ token ∈ (tokensFrom last n st fresh t).tokens.map Token.bare, token.1 = .finish) →
      Cut st fresh t ((tokensFrom last n st fresh t).tokens.map Token.bare)

section

variable {last n : Nat} {st : Layout} {t : Text}

theorem CutsWhole.within (h : CutsWhole last n) (ht : Ended t)
    (hend : ∃ token ∈ (tokensFrom last n st false t).tokens.map Token.bare, token.1 = .finish) :
    Cut st false t ((tokensFrom last n st false t).tokens.map Token.bare) :=
  h ht (absurd · Bool.false_ne_true) hend

theorem not_finish_stop {fault : LexFault} :
    ¬ ∃ token ∈ (Lexed.stop fault).tokens.map Token.bare, token.1 = .finish := nofun

/-- The end of the text stands behind what is not the end. -/
theorem exists_finish_of_append {ts us : List (TokenKind × Nat)}
    (h : ∃ token ∈ ts ++ us, token.1 = .finish) (hts : ∀ token ∈ ts, token.1 ≠ .finish) :
    ∃ token ∈ us, token.1 = .finish := by
  obtain ⟨token, hmem, hkind⟩ := h
  exact ⟨token, (List.mem_append.mp hmem).resolve_left fun hleft => hts token hleft hkind, hkind⟩

theorem exists_finish_of_cons {first : TokenKind × Nat} {ts : List (TokenKind × Nat)}
    (h : ∃ token ∈ first :: ts, token.1 = .finish) (hfirst : first.1 ≠ .finish) :
    ∃ token ∈ ts, token.1 = .finish := by
  rw [← List.singleton_append] at h
  exact exists_finish_of_append h (List.forall_mem_singleton.mpr hfirst)

theorem cut_of_tokensFrom_fresh (ih : CutsWhole last n) (ht : Ended t) (hst : st.brackets = [])
    (hend : ∃ token ∈ (tokensFrom last (n + 1) st true t).tokens.map Token.bare,
      token.1 = .finish) :
    Cut st true t ((tokensFrom last (n + 1) st true t).tokens.map Token.bare) := by
  cases hmeasure : measureIndent 0 0 none 0 t with
  | none =>
    rw [tokensFrom, hmeasure] at hend
    exact absurd hend not_finish_stop
  | some measured =>
    obtain ⟨column, narrow, lines, _ | ⟨c, rest⟩⟩ := measured
    · have hended := bare_tokensFrom_ended last n st hmeasure
      rw [hended] at hend ⊢
      obtain rfl | hlines := eq_nil_of_measureIndent ht hmeasure
      · obtain ⟨-, -, rfl⟩ : _ ∧ _ ∧ 0 = lines := by simpa [measureIndent] using hmeasure
        rw [if_pos rfl, hst]
        exact .ended hst
      · rw [if_neg (Nat.ne_of_gt hlines)] at hend
        obtain ⟨_, hmem, -⟩ := hend
        cases hmem
    · have hrest := ht.of_suffix (isSuffix_of_measureIndent hmeasure)
      rw [tokensFrom_fresh last n st hmeasure] at hend ⊢
      by_cases hskip : c = '#' ∨ c = '\n'
      · rw [if_pos hskip] at hend ⊢
        exact .skip hmeasure hskip
          (ih (hrest.of_suffix (isSuffix_linesBelow (c :: rest))) (fun _ => hst) hend)
      · rw [if_neg hskip] at hend ⊢
        cases hmarks : indentMarks { st with line := st.line + lines } column narrow with
        | error fault =>
          rw [hmarks] at hend
          exact absurd hend not_finish_stop
        | ok marked =>
          obtain ⟨marks, st'⟩ := marked
          rw [hmarks] at hend
          dsimp only at hend ⊢
          rw [List.map_append] at hend ⊢
          have hmore := exists_finish_of_append hend (ne_finish_of_indentMarks hmarks)
          exact .line hmeasure hskip hmarks (ih.within hrest hmore)

theorem cut_of_tokensFrom_newline (ih : CutsWhole last n) (ht : Ended t)
    (hend : ∃ token ∈ (tokensFrom last (n + 1) st false ('\n' :: t)).tokens.map Token.bare,
      token.1 = .finish) :
    Cut st false ('\n' :: t)
      ((tokensFrom last (n + 1) st false ('\n' :: t)).tokens.map Token.bare) := by
  rw [tokensFrom_newline] at hend ⊢
  by_cases hbrackets : st.brackets = []
  · have hmark : (st.token .newline).bare = (.newline, 0) := by
      simp [Token.bare, Layout.token, hbrackets]
    rw [if_pos (by simp [hbrackets])] at hend ⊢
    dsimp only [Lexed.cons] at hend ⊢
    rw [List.map_cons, hmark] at hend ⊢
    exact .newline hbrackets (ih ht (fun _ => hbrackets) (exists_finish_of_cons hend TokenKind.noConfusion))
  · rw [if_neg (by simpa using hbrackets)] at hend ⊢
    exact .inside hbrackets (ih.within ht hend)

theorem cut_of_tokensFrom_token {c : Char} (hgap : isGap c = false) (hcomment : c ≠ '#')
    (hnewline : c ≠ '\n') (hback : c ≠ '\\') (ih : CutsWhole last n) (ht : Ended (c :: t))
    (hend : ∃ token ∈ (tokensFrom last (n + 1) st false (c :: t)).tokens.map Token.bare,
      token.1 = .finish) :
    Cut st false (c :: t) ((tokensFrom last (n + 1) st false (c :: t)).tokens.map Token.bare) := by
  rw [tokensFrom_readToken hgap hcomment hnewline hback] at hend ⊢
  cases hread : readToken st last c t with
  | error fault =>
    rw [hread] at hend
    exact absurd hend not_finish_stop
  | ok read =>
    obtain ⟨token, st', rest⟩ := read
    rw [hread] at hend
    obtain ⟨hrest, happend⟩ := readToken_append hnewline ht hread
    obtain ⟨hkind, -⟩ := readsAlike_readToken hread last
    dsimp only [Lexed.cons] at hend ⊢
    rw [List.map_cons] at hend ⊢
    have hmore := exists_finish_of_cons hend hkind
    exact .token hgap hcomment hnewline hback (fun last' => by simpa using happend last' []) hrest
      (ih.within (ht.of_suffix (hrest.trans (List.suffix_cons c t))) hmore)

theorem cut_of_tokensFrom_within (ih : CutsWhole last n) (ht : Ended t)
    (hend : ∃ token ∈ (tokensFrom last (n + 1) st false t).tokens.map Token.bare,
      token.1 = .finish) :
    Cut st false t ((tokensFrom last (n + 1) st false t).tokens.map Token.bare) := by
  refine Cut.of_dropWhile ?_
  have hfirst (c : Char) (u : Text) (hu : t.dropWhile isGap = c :: u) : isGap c = false := by
    have hne : t.dropWhile isGap ≠ [] := by simp [hu]
    have hhead := List.head_dropWhile_not isGap hne
    simpa only [hu, List.head_cons] using hhead
  rw [← tokensFrom_dropWhile] at hend ⊢
  replace ht : Ended (t.dropWhile isGap) := ht.of_suffix (List.dropWhile_suffix isGap)
  generalize t.dropWhile isGap = v at *
  cases v with
  | nil => exact absurd hend not_finish_stop
  | cons c v =>
    have hv : Ended v := ht.of_suffix (List.suffix_cons c v)
    by_cases hcomment : c = '#'
    · subst hcomment
      rw [tokensFrom_comment] at hend ⊢
      exact .comment (ih.within (hv.of_suffix (List.dropWhile_suffix _)) hend)
    by_cases hnewline : c = '\n'
    · subst hnewline
      exact cut_of_tokensFrom_newline ih hv hend
    by_cases hback : c = '\\'
    · subst hback
      cases v with
      | nil => exact absurd (ht '\\' rfl) (by decide)
      | cons d u =>
        by_cases hd : d = '\n'
        · subst hd
          by_cases hu : u = []
          · subst hu
            exact absurd hend not_finish_stop
          · rw [tokensFrom_joined _ _ _ hu] at hend ⊢
            exact .joined hu (ih.within (hv.of_suffix (List.suffix_cons _ u)) hend)
        · rw [tokens_tokensFrom_backslash _ _ _ hd] at hend
          obtain ⟨_, hmem, -⟩ := hend
          cases hmem
    · exact cut_of_tokensFrom_token (hfirst c v rfl) hcomment hnewline hback ih ht hend

/-- **The rules give the tokens of a text** that can be cut up to its end. -/
theorem cut_of_tokensFrom (last n : Nat) : CutsWhole last n := by
  induction n with
  | zero =>
    intro _ _ _ _ _ hend
    exact absurd hend not_finish_stop
  | succ n ih =>
    intro st fresh t ht hst hend
    cases fresh with
    | true => exact cut_of_tokensFrom_fresh ih ht (hst rfl) hend
    | false => exact cut_of_tokensFrom_within ih ht hend

end

/-! ### The rules are complete -/

section

variable {st : Layout} {fresh : Bool} {t : Text} {ts : List (TokenKind × Nat)}

theorem tokensFrom_gap (last n : Nat) (st : Layout) {c : Char} (hc : isGap c = true) (t : Text) :
    tokensFrom last n st false (c :: t) = tokensFrom last n st false t := by
  rw [← tokensFrom_dropWhile, List.dropWhile_cons_of_pos hc, tokensFrom_dropWhile]

/-- **What the rules give are the tokens of a text**, if there are steps enough. -/
theorem Cut.bare_tokensFrom (h : Cut st fresh t ts) (last : Nat) {n : Nat}
    (hn : 2 * t.length + fresh.toNat < n) :
    (tokensFrom last n st fresh t).tokens.map Token.bare = ts := by
  induction h generalizing n with
  | ended hst =>
    obtain ⟨n, rfl⟩ : ∃ m, n = m + 1 := ⟨n - 1, by omega⟩
    have hmeasure : measureIndent 0 0 none 0 [] = some (0, 0, 0, []) := rfl
    rw [bare_tokensFrom_ended last n _ hmeasure, hst]
    rfl
  | @skip st t rest column narrow lines c ts hmeasure hskip _ ih =>
    obtain ⟨n, rfl⟩ : ∃ m, n = m + 1 := ⟨n - 1, by omega⟩
    rw [tokensFrom_fresh last n _ hmeasure, if_pos hskip]
    have hrest := (isSuffix_of_measureIndent hmeasure).length_le
    have hbelow := length_linesBelow_lt c rest
    exact ih (by simp at hn hrest hbelow ⊢; omega)
  | @line st st' t rest column narrow lines c marks ts hmeasure hline hmarks _ ih =>
    obtain ⟨n, rfl⟩ : ∃ m, n = m + 1 := ⟨n - 1, by omega⟩
    rw [tokensFrom_fresh last n _ hmeasure, if_neg hline, hmarks]
    dsimp only
    have hrest := (isSuffix_of_measureIndent hmeasure).length_le
    rw [List.map_append, ih (by simp at hn hrest ⊢; omega)]
  | gap hc _ ih =>
    rw [tokensFrom_gap _ _ _ hc]
    exact ih (by simp at hn ⊢; omega)
  | @comment st t ts _ ih =>
    obtain ⟨n, rfl⟩ : ∃ m, n = m + 1 := ⟨n - 1, by omega⟩
    rw [tokensFrom_comment]
    have hrest := (List.dropWhile_suffix (l := t) (· != '\n')).length_le
    exact ih (by simp at hn ⊢; omega)
  | newline hst _ ih =>
    obtain ⟨n, rfl⟩ : ∃ m, n = m + 1 := ⟨n - 1, by omega⟩
    rw [tokensFrom_newline, if_pos (by simp [hst])]
    have hmore := ih (n := n) (by simp at hn ⊢; omega)
    rw [← hmore]
    simp [Lexed.cons, Token.bare, Layout.token, hst]
  | inside hst _ ih =>
    obtain ⟨n, rfl⟩ : ∃ m, n = m + 1 := ⟨n - 1, by omega⟩
    rw [tokensFrom_newline, if_neg (by simpa using hst)]
    exact ih (by simp at hn ⊢; omega)
  | joined ht _ ih =>
    obtain ⟨n, rfl⟩ : ∃ m, n = m + 1 := ⟨n - 1, by omega⟩
    rw [tokensFrom_joined _ _ _ ht]
    exact ih (by simp at hn ⊢; omega)
  | token hgap hcomment hnewline hback hread hrest _ ih =>
    obtain ⟨n, rfl⟩ : ∃ m, n = m + 1 := ⟨n - 1, by omega⟩
    rw [tokensFrom_readToken hgap hcomment hnewline hback, hread last]
    have hlength := hrest.length_le
    have hmore := ih (n := n) (by simp at hn ⊢; omega)
    rw [← hmore]
    rfl

/-! ### Lines do not matter -/

/-- **A text is cut alike on any lines.** -/
theorem Cut.alike (h : Cut st fresh t ts) {st₂ : Layout} (halike : Alike st st₂) :
    Cut st₂ fresh t ts := by
  induction h generalizing st₂ with
  | ended hst =>
    have hdedents : dedents st₂ = dedents _ := congrArg (List.map _) halike.indents
    rw [← hdedents]
    exact .ended (halike.brackets_eq_nil_iff.mpr hst)
  | skip hmeasure hskip _ ih =>
    exact .skip hmeasure hskip (ih (halike.addLines _ _).nextLine)
  | line hmeasure hline hmarks _ ih =>
    obtain ⟨marks₂, st₂', hmarks₂, hbare, halike'⟩ :=
      exists_indentMarks_of_alike (halike.addLines _ _) hmarks
    rw [← hbare]
    exact .line hmeasure hline hmarks₂ (ih halike')
  | gap hc _ ih => exact .gap hc (ih halike)
  | comment _ ih => exact .comment (ih halike)
  | newline hst _ ih =>
    exact .newline (halike.brackets_eq_nil_iff.mpr hst) (ih halike.nextLine)
  | inside hst _ ih =>
    exact .inside (mt halike.brackets_eq_nil_iff.mp hst) (ih halike.nextLine)
  | joined ht _ ih => exact .joined ht (ih halike.nextLine)
  | token hgap hcomment hnewline hback hread hrest _ ih =>
    obtain ⟨-, -, hsame⟩ := readsAlike_readToken (hread 0) 0
    obtain ⟨token₂, st₂', hread₂, hbare, halike'⟩ := hsame st₂ halike
    rw [← hbare]
    exact .token hgap hcomment hnewline hback (readToken_of_last hread₂) hrest (ih halike')

end

/-! ## One text behind the other -/

/-- The tokens of lines, from the beginning of a line on or from within: no end of the text is
among them, and the last of them is a mark. -/
structure IsRow (fresh : Bool) (row : List (TokenKind × Nat)) : Prop where
  ne_finish : ∀ t ∈ row, t.1 ≠ .finish
  lines : Lines row
  ne_nil : fresh = false → row ≠ []

theorem IsRow.cons {row : List (TokenKind × Nat)} {t : TokenKind × Nat} (ht : t.1 ≠ .finish)
    {fresh : Bool} (h : IsRow false row) : IsRow fresh (t :: row) where
  ne_finish := List.forall_mem_cons.mpr ⟨ht, h.ne_finish⟩
  lines := by
    obtain ⟨u, row, rfl⟩ := List.exists_cons_of_ne_nil (h.ne_nil rfl)
    simpa [Lines] using h.lines
  ne_nil _ := List.cons_ne_nil t row

theorem IsRow.newline {row : List (TokenKind × Nat)} (h : IsRow true row) :
    IsRow false ((.newline, 0) :: row) where
  ne_finish := List.forall_mem_cons.mpr ⟨nofun, h.ne_finish⟩
  lines := by
    cases row with
    | nil => simp [Lines, TokenKind.isMark]
    | cons u row => simpa [Lines] using h.lines
  ne_nil _ := List.cons_ne_nil _ row

theorem IsRow.append {row marks : List (TokenKind × Nat)} (hmarks : ∀ t ∈ marks, t.1 ≠ .finish)
    (h : IsRow false row) : IsRow true (marks ++ row) where
  ne_finish t ht := (List.mem_append.mp ht).elim (hmarks t) (h.ne_finish t)
  lines := by
    rw [Lines, List.getLast?_append_of_ne_nil _ (h.ne_nil rfl)]
    exact h.lines
  ne_nil := nofun

theorem isRow_dedents (st : Layout) : IsRow true (dedents st) where
  ne_finish t ht := by
    obtain ⟨_, -, rfl⟩ := List.mem_map.mp ht
    exact nofun
  lines t ht := by
    obtain ⟨_, -, rfl⟩ := List.mem_map.mp (List.mem_of_getLast? ht)
    rfl
  ne_nil := nofun

/-- A text that may stand below any lines: their indentations are ended before its first token. -/
def Follows (below : Text) (more : List (TokenKind × Nat)) : Prop :=
  ∀ st, Outside st → Cut st true below (dedents st ++ more)

theorem follows_nil : Follows [] [endMark] := fun _ hst => .ended hst.brackets

/-- **Where code ends, other code may follow.** -/
theorem Cut.exists_append {st : Layout} {fresh : Bool} {t : Text} {ts : List (TokenKind × Nat)}
    (h : Cut st fresh t ts) (ht : Ended t) (hst : ∀ level ∈ st.indents, 0 < level.1)
    {below : Text} {more : List (TokenKind × Nat)} (hbelow : Follows below more) :
    ∃ row, ts = row ++ [endMark] ∧ IsRow fresh row ∧ Cut st fresh (t ++ below) (row ++ more) := by
  induction h with
  | @ended st hbrackets => exact ⟨_, rfl, isRow_dedents st, hbelow st ⟨hbrackets, hst⟩⟩
  | @skip st t rest column narrow lines c ts hmeasure hskip _ ih =>
    have hrest := ht.of_suffix (isSuffix_of_measureIndent hmeasure)
    obtain ⟨row, rfl, hrow, hcut⟩ := ih (hrest.of_suffix (isSuffix_linesBelow _)) hst
    rw [← linesBelow_append hrest (List.cons_ne_nil c rest)] at hcut
    exact ⟨row, rfl, hrow, .skip (measureIndent_append hmeasure below) hskip hcut⟩
  | @line st st' t rest column narrow lines c marks ts hmeasure hline hmarks _ ih =>
    have hrest := ht.of_suffix (isSuffix_of_measureIndent hmeasure)
    have hpos : ∀ level ∈ { st with line := st.line + lines }.indents, 0 < level.1 := hst
    obtain ⟨row, rfl, hrow, hcut⟩ := ih hrest (positive_of_indentMarks hpos hmarks)
    refine ⟨marks.map Token.bare ++ row, by rw [List.append_assoc],
      hrow.append (ne_finish_of_indentMarks hmarks), ?_⟩
    rw [List.append_assoc]
    exact .line (measureIndent_append hmeasure below) hline hmarks hcut
  | @gap st c t ts hc _ ih =>
    obtain ⟨row, rfl, hrow, hcut⟩ := ih (ht.of_suffix (List.suffix_cons c t)) hst
    exact ⟨row, rfl, hrow, .gap hc hcut⟩
  | @comment st t ts _ ih =>
    obtain ⟨u, rfl⟩ := ht.exists_of_cons (by decide)
    have hend := ended_append_newline u
    obtain ⟨row, rfl, hrow, hcut⟩ := ih (hend.of_suffix (List.dropWhile_suffix _)) hst
    rw [← (dropWhile_append_of_ended (p := (· != '\n')) rfl hend (by simp) below).1] at hcut
    exact ⟨row, rfl, hrow, .comment hcut⟩
  | @newline st t ts hbrackets _ ih =>
    obtain ⟨row, rfl, hrow, hcut⟩ := ih (ht.of_suffix (List.suffix_cons _ t)) hst
    exact ⟨_, rfl, hrow.newline, .newline hbrackets hcut⟩
  | @inside st t ts hbrackets _ ih =>
    obtain ⟨row, rfl, hrow, hcut⟩ := ih (ht.of_suffix (List.suffix_cons _ t)) hst
    exact ⟨row, rfl, hrow, .inside hbrackets hcut⟩
  | @joined st t ts hne _ ih =>
    obtain ⟨row, rfl, hrow, hcut⟩ := ih (ht.of_suffix ⟨['\\', '\n'], rfl⟩) hst
    exact ⟨row, rfl, hrow, .joined (by simp [hne]) hcut⟩
  | @token st st' c t rest token ts hgap hcomment hnewline hback hread hrest _ ih =>
    obtain ⟨-, hmore⟩ := readToken_append hnewline ht (hread 0)
    obtain ⟨hkind, hindents, -⟩ := readsAlike_readToken (hread 0) 0
    have hend := ht.of_suffix (hrest.trans (List.suffix_cons c t))
    obtain ⟨row, rfl, hrow, hcut⟩ := ih hend (by rwa [hindents])
    have hsuffix : rest ++ below <:+ t ++ below := by
      obtain ⟨before, rfl⟩ := hrest
      exact ⟨before, by rw [List.append_assoc]⟩
    exact ⟨_, rfl, hrow.cons hkind,
      .token hgap hcomment hnewline hback (fun last => hmore last below) hsuffix hcut⟩

/-- **Code that does not begin with a mark of indentation may stand below any lines.** -/
theorem Cut.dedented {st : Layout} {t : Text} {ts : List (TokenKind × Nat)} (h : Cut st true t ts)
    (hst : st.indents = []) (hbrackets : st.brackets = [])
    (hfirst : ∀ first ∈ ts.head?, first.1 ≠ .indent) {st₂ : Layout} (hst₂ : Outside st₂) :
    Cut st₂ true t (dedents st₂ ++ ts) := by
  generalize hfresh : true = fresh at h
  induction h generalizing st₂ with
  | @ended st _ =>
    have hnone : dedents st = [] := by rw [dedents, hst]; rfl
    rw [hnone]
    exact .ended hst₂.brackets
  | @skip st t rest column narrow lines c ts hmeasure hskip _ ih =>
    exact .skip hmeasure hskip (ih hst hbrackets hfirst ⟨hst₂.brackets, hst₂.indents⟩ rfl)
  | @line st st' t rest column narrow lines c marks ts hmeasure hline hmarks h =>
    have hindent : { st with line := st.line + lines }.indent = (0, 0) := by
      rw [Layout.indent, hst]
      rfl
    obtain ⟨hcolumn, rfl, rfl⟩ | ⟨-, rfl, -⟩ | ⟨hless, -⟩ := indentMarks_cases hmarks
    · obtain ⟨rfl, rfl⟩ := Prod.mk.inj (hcolumn.trans hindent)
      have houtside : Outside { st₂ with line := st₂.line + lines } :=
        ⟨hst₂.brackets, hst₂.indents⟩
      obtain ⟨marks, hmarks, hbare⟩ := indentMarks_zero houtside
      have hsame : dedents st₂ = marks.map Token.bare := hbare.symm
      rw [hsame]
      refine .line hmeasure hline hmarks (h.alike ⟨hst.symm, ?_⟩)
      rw [hst₂.brackets, hbrackets]
    · exact absurd rfl (hfirst _ rfl)
    · rw [hindent] at hless
      exact absurd hless (Nat.not_lt_zero column)
  | _ => cases hfresh

theorem Cut.follows {t : Text} {ts : List (TokenKind × Nat)} (h : Cut .start true t ts)
    (hfirst : ∀ first ∈ ts.head?, first.1 ≠ .indent) : Follows t ts :=
  fun _ hst => h.dedented rfl rfl hfirst hst

/-- A comment on a line of its own says nothing. -/
theorem Follows.comment {below : Text} {more : List (TokenKind × Nat)} (h : Follows below more)
    {comment : Text} (hcomment : '\n' ∉ comment) :
    Follows ('#' :: (comment ++ '\n' :: below)) more := by
  intro st hst
  have hmeasure : measureIndent 0 0 none 0 ('#' :: (comment ++ '\n' :: below)) =
      some (0, 0, 0, '#' :: (comment ++ '\n' :: below)) :=
    measureIndent_of_ne (by decide) (by decide) (by decide) (by decide) ..
  refine .skip hmeasure (.inl rfl) ?_
  have hline : '\n' ∉ '#' :: comment := by simpa using hcomment
  rw [← List.cons_append, linesBelow, dropWhile_line hline]
  exact h _ ⟨hst.brackets, hst.indents⟩

/-- An empty line says nothing. -/
theorem Follows.newline {below : Text} {more : List (TokenKind × Nat)} (h : Follows below more) :
    Follows ('\n' :: below) more := by
  intro st hst
  have hmeasure : measureIndent 0 0 none 0 ('\n' :: below) = some (0, 0, 0, '\n' :: below) :=
    measureIndent_of_ne (by decide) (by decide) (by decide) (by decide) ..
  exact .skip hmeasure (.inr rfl) (h _ ⟨hst.brackets, hst.indents⟩)

/-- **Code, and what may stand below it.** -/
theorem Cut.exists_follows {t below : Text} {ts more : List (TokenKind × Nat)}
    (h : Cut .start true t ts) (ht : Ended t) (hfirst : ∀ first ∈ ts.head?, first.1 ≠ .indent)
    (hbelow : Follows below more) (hmore : ∀ first ∈ more.head?, first.1 ≠ .indent) :
    ∃ row, ts = row ++ [endMark] ∧ IsRow true row ∧ Follows (t ++ below) (row ++ more) := by
  obtain ⟨row, rfl, hrow, hcut⟩ := h.exists_append ht (by simp [Layout.start]) hbelow
  refine ⟨row, rfl, hrow, hcut.follows ?_⟩
  cases row with
  | nil => exact hmore
  | cons first row => exact hfirst

end Stencil.Code
