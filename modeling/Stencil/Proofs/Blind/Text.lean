import Stencil.Code.Parse
import Stencil.Proofs.Blind.Statement

/-!
# Reading texts one behind the other

What a text says depends on its tokens only, not on the lines that they stand on: two texts that are
cut into the same tokens, but for their lines, are the same code. And a text may go on: where the
tokens of one text end, those of another may follow, and the statements follow as well.

Reading a text goes through its statements one by one, and each of them takes at least one token.

* `readsAs_of_statements`: a reading does not depend on lines, nor on what bounds it.
* `ReadsAs.append`: one text behind the other.
* `readsAs_of_parse`, `exists_parse_of_readsAs`: code as it is read from its tokens.
* `exists_parse_of_bare`: two texts with the same tokens.
-/

namespace Stencil.Code

namespace Parser

/-! ## Going on in a text -/

/-- The same tokens, which come up in a text. -/
def Along (whole ts us : List (TokenKind × Nat)) : Prop := ts = us ∧ ts <:+ whole

/-- The same tokens, which come up in a text behind its first token. -/
def Beyond (whole ts us : List (TokenKind × Nat)) : Prop :=
  Along whole ts us ∧ ts.length < whole.length

theorem linewise_along (whole : List (TokenKind × Nat)) : Linewise (Along whole) (Beyond whole) where
  head?_eq h := congrArg List.head? h.1
  tail h _ := ⟨(List.cons.inj h.1).2, (List.suffix_cons _ _).trans h.2⟩
  behind h :=
    ⟨⟨(List.cons.inj h.1).2, (List.suffix_cons _ _).trans h.2⟩,
      Nat.lt_of_lt_of_le (Nat.lt_succ_self _) h.2.length_le⟩
  within_or_ended h := .inl h.1

variable {n depth : Nat}

/-- **A statement is read whatever lines it stands on, and it takes a token.** -/
theorem exists_statement_of_bare {c d c' : Cursor} {ss : List Stmt} (hbare : c.bare = d.bare)
    (h : statement n depth c = .ok (ss, c')) :
    ∃ ss' d', statement n depth d = .ok (ss', d') ∧ Stmt.bareAll ss = Stmt.bareAll ss' ∧
      c'.bare = d'.bare ∧ c'.bare <:+ c.bare ∧ c'.bare.length < c.bare.length := by
  obtain ⟨ss', d', hread, hss, ⟨hsame, hsuffix⟩, hlength⟩ :=
    leads_statement (linewise_along c.bare) n depth ⟨hbare, List.suffix_rfl⟩ h
  exact ⟨ss', d', hread, hss, hsame, hsuffix, hlength⟩

/-! ## Statement after statement -/

section

variable {one : Parser (List Stmt)} {c : Cursor} {t : Token} {ts : List Token}

theorem statements_of_finish (htokens : c.ahead.tokens = t :: ts) (hkind : t.kind = .finish)
    (m : Nat) : statements one (m + 1) c = .ok ([], c) := by
  rw [statements, bind_apply, peek_of_cons htokens]
  dsimp only
  rw [hkind]
  rfl

theorem statements_of_ne_finish (htokens : c.ahead.tokens = t :: ts) (hkind : t.kind ≠ .finish)
    (m : Nat) :
    statements one (m + 1) c =
      match one c with
      | .error refusal => .error refusal
      | .ok (ss, c') =>
        match statements one m c' with
        | .error refusal => .error refusal
        | .ok (rest, c'') => .ok (ss ++ rest, c'') := by
  rw [statements, bind_apply, peek_of_cons htokens]
  dsimp only
  rw [if_neg (by simpa using hkind), bind_apply]
  cases one c with
  | error refusal => rfl
  | ok read =>
    dsimp only
    rw [bind_apply]
    cases statements one m read.2 <;> rfl

/-- How statements have been read: there were none, or there was a first one. -/
theorem statements_cases {m : Nat} {ss : List Stmt} {c' : Cursor}
    (h : statements one m c = .ok (ss, c')) :
    ∃ t ts m', c.ahead.tokens = t :: ts ∧ m = m' + 1 ∧
      (t.kind = .finish ∧ ss = [] ∨
        t.kind ≠ .finish ∧ ∃ first c₁ rest c₂, one c = .ok (first, c₁) ∧
          statements one m' c₁ = .ok (rest, c₂) ∧ ss = first ++ rest) := by
  cases m with
  | zero =>
    obtain ⟨e, -, he, -⟩ := refuse_refuse (α := List Stmt) stepwise_eq (rfl : c.bare = c.bare)
    rw [statements, he] at h
    cases h
  | succ m =>
    cases htokens : c.ahead.tokens with
    | nil =>
      obtain ⟨⟨tokens, fault⟩, last⟩ := c
      obtain rfl : tokens = [] := htokens
      cases fault <;> cases h
    | cons t ts =>
      refine ⟨t, ts, m, rfl, rfl, ?_⟩
      by_cases hkind : t.kind = .finish
      · rw [statements_of_finish htokens hkind] at h
        exact .inl ⟨hkind, (Prod.mk.inj (Except.ok.inj h)).1.symm⟩
      · rw [statements_of_ne_finish htokens hkind] at h
        cases hfirst : one c with
        | error refusal =>
          rw [hfirst] at h
          cases h
        | ok read =>
          obtain ⟨first, c₁⟩ := read
          rw [hfirst] at h
          dsimp only at h
          cases hrest : statements one m c₁ with
          | error refusal =>
            rw [hrest] at h
            cases h
          | ok read =>
            obtain ⟨rest, c₂⟩ := read
            rw [hrest] at h
            exact .inr ⟨hkind, first, c₁, rest, c₂, rfl, hrest,
              (Prod.mk.inj (Except.ok.inj h)).1.symm⟩

end

/-- **Tokens that are read as these statements**, on whatever lines they stand. -/
def ReadsAs (n depth : Nat) (ts : List (TokenKind × Nat)) (ss : List Stmt) : Prop :=
  ∀ c : Cursor, c.bare = ts → ∀ m, ts.length < m →
    ∃ ss' c', statements (statement n depth) m c = .ok (ss', c') ∧ Stmt.bareAll ss' = ss

theorem exists_token_of_bare {c : Cursor} {t : TokenKind × Nat} {ts : List (TokenKind × Nat)}
    (h : c.bare = t :: ts) :
    ∃ token more, c.ahead.tokens = token :: more ∧ token.kind = t.1 := by
  obtain ⟨token, more, htokens, rfl, -⟩ := List.map_eq_cons_iff.mp h
  exact ⟨token, more, htokens, rfl⟩

theorem bare_of_tokens {c : Cursor} {t : Token} {ts : List Token}
    (h : c.ahead.tokens = t :: ts) : c.bare = t.bare :: ts.map Token.bare := by
  rw [Cursor.bare, h]
  rfl

/-- **A reading does not depend on lines**, nor on what bounds the number of statements. -/
theorem readsAs_of_statements {m : Nat} {c c' : Cursor} {ss : List Stmt}
    (h : statements (statement n depth) m c = .ok (ss, c')) :
    ReadsAs n depth c.bare (Stmt.bareAll ss) := by
  induction m generalizing c ss c' with
  | zero =>
    obtain ⟨_, _, _, _, hm, _⟩ := statements_cases h
    cases hm
  | succ m ih =>
    intro d hd k hk
    obtain ⟨k, rfl⟩ : ∃ k', k = k' + 1 := ⟨k - 1, by omega⟩
    obtain ⟨t, ts, m', htokens, hm, hcases⟩ := statements_cases h
    obtain rfl := Nat.succ.inj hm
    obtain ⟨token, more, hdtokens, htoken⟩ := exists_token_of_bare (hd.trans (bare_of_tokens htokens))
    obtain ⟨hfinish, rfl⟩ | ⟨hfinish, first, c₁, rest, c₂, hfirst, hrest, rfl⟩ := hcases
    · exact ⟨[], d, statements_of_finish hdtokens (htoken.trans hfinish) k, rfl⟩
    · obtain ⟨first', d₁, hfirst', hsame, hbare, -, hless⟩ := exists_statement_of_bare hd.symm hfirst
      obtain ⟨rest', d₂, hrest', hrests⟩ := ih hrest d₁ hbare.symm k (by omega)
      refine ⟨first' ++ rest', d₂, ?_, ?_⟩
      · rw [statements_of_ne_finish hdtokens fun heq => hfinish (htoken.symm.trans heq), hfirst']
        dsimp only
        rw [hrest']
      · rw [Stmt.bareAll_append, Stmt.bareAll_append, hsame, hrests]

/-- Statements are read up to the end of a text. -/
theorem exists_finish_of_statements {m : Nat} {c c' : Cursor} {ss : List Stmt}
    (h : statements (statement n depth) m c = .ok (ss, c')) : ∃ t ∈ c.bare, t.1 = .finish := by
  induction m generalizing c ss c' with
  | zero =>
    obtain ⟨_, _, _, _, hm, _⟩ := statements_cases h
    cases hm
  | succ m ih =>
    obtain ⟨t, ts, m', htokens, hm, hcases⟩ := statements_cases h
    obtain rfl := Nat.succ.inj hm
    obtain ⟨hfinish, -⟩ | ⟨-, first, c₁, rest, c₂, hfirst, hrest, -⟩ := hcases
    · exact ⟨t.bare, by rw [bare_of_tokens htokens]; exact List.mem_cons_self, hfinish⟩
    · obtain ⟨_, _, _, _, _, hsuffix, _⟩ := exists_statement_of_bare rfl hfirst
      obtain ⟨t, ht, hkind⟩ := ih hrest
      exact ⟨t, hsuffix.subset ht, hkind⟩

/-! ## One text behind the other -/

/-- The mark of the end of a text. -/
def endMark : TokenKind × Nat := (.finish, 0)

/-- The tokens of lines: if there are any, the last one is a mark. -/
def Lines (ts : List (TokenKind × Nat)) : Prop := ∀ t ∈ ts.getLast?, t.1.isMark = true

/-- The tokens behind a line, or the end of a text: no `else` and no `elif`. -/
def GoesOn (us : List (TokenKind × Nat)) : Prop :=
  ∃ u us', us = u :: us' ∧ u.1 ≠ word "else" ∧ u.1 ≠ word "elif"

/-- Lines of a text, and the same lines with other tokens behind them. -/
def Between (more ts us : List (TokenKind × Nat)) : Prop :=
  ∃ row, Lines row ∧ ts = row ++ [endMark] ∧ us = row ++ more

/-- The same, not at the end of the lines. -/
def Within (more ts us : List (TokenKind × Nat)) : Prop :=
  ∃ row, row ≠ [] ∧ Lines row ∧ ts = row ++ [endMark] ∧ us = row ++ more

theorem Lines.tail {t : TokenKind × Nat} {ts : List (TokenKind × Nat)} (h : Lines (t :: ts)) :
    Lines ts := by
  cases ts with
  | nil => simp [Lines]
  | cons u ts => simpa [Lines] using h

theorem Within.exists_of_cons {more ts us : List (TokenKind × Nat)} {t : TokenKind × Nat}
    (h : Within more (t :: ts) (t :: us)) :
    ∃ row, Lines (t :: row) ∧ ts = row ++ [endMark] ∧ us = row ++ more := by
  obtain ⟨row, hne, hlines, hts, hus⟩ := h
  obtain ⟨u, row, rfl⟩ := List.exists_cons_of_ne_nil hne
  obtain ⟨rfl, rfl⟩ := List.cons.inj hts
  exact ⟨row, hlines, rfl, (List.cons.inj hus).2⟩

theorem linewise_within {more : List (TokenKind × Nat)} (hmore : GoesOn more) :
    Linewise (Within more) (Between more) where
  head?_eq := by
    rintro ts us ⟨row, hne, -, rfl, rfl⟩
    obtain ⟨t, row, rfl⟩ := List.exists_cons_of_ne_nil hne
    rfl
  tail := by
    intro t ts us h hmark
    obtain ⟨row, hlines, rfl, rfl⟩ := h.exists_of_cons
    refine ⟨row, ?_, hlines.tail, rfl, rfl⟩
    rintro rfl
    -- the last token of lines is a mark
    rw [hlines t rfl] at hmark
    cases hmark
  behind := by
    intro t ts us h
    obtain ⟨row, hlines, rfl, rfl⟩ := h.exists_of_cons
    exact ⟨row, hlines.tail, rfl, rfl⟩
  within_or_ended := by
    rintro ts us ⟨row, hlines, rfl, rfl⟩
    cases row with
    | nil => exact .inr ⟨⟨endMark, [], rfl, rfl⟩, hmore⟩
    | cons t row => exact .inl ⟨t :: row, by simp, hlines, rfl, rfl⟩

/-- Tokens as a parser meets them, on no line in particular. -/
def cursorOf (ts : List (TokenKind × Nat)) : Cursor :=
  ⟨⟨ts.map fun t => ⟨t.1, 0, 0, t.2⟩, none⟩, 0⟩

theorem bare_cursorOf (ts : List (TokenKind × Nat)) : (cursorOf ts).bare = ts := by
  rw [Cursor.bare, cursorOf, List.map_map]
  exact List.map_id ts

/-- **Two texts one behind the other are read one after the other.** -/
theorem ReadsAs.append {lines more : List (TokenKind × Nat)} {ss rest : List Stmt}
    (h : ReadsAs n depth (lines ++ [endMark]) ss) (hlines : Lines lines)
    (hend : ∀ t ∈ lines, t.1 ≠ .finish) (hrest : ReadsAs n depth more rest) (hmore : GoesOn more) :
    ReadsAs n depth (lines ++ more) (ss ++ rest) := by
  induction hk : lines.length using Nat.strongRecOn generalizing lines ss with
  | ind k ih =>
    obtain ⟨read, c', hread, hss⟩ := h _ (bare_cursorOf _) _ (Nat.lt_succ_self _)
    obtain ⟨token, tokens, m, htokens, -, hcases⟩ := statements_cases hread
    have hbare := (bare_cursorOf (lines ++ [endMark])).symm.trans (bare_of_tokens htokens)
    cases lines with
    | nil =>
      obtain ⟨-, rfl⟩ | ⟨hfinish, -⟩ := hcases
      · rw [← hss]
        exact hrest
      · exact absurd (congrArg Prod.fst (List.cons.inj hbare).1).symm hfinish
    | cons t lines =>
      have hkind : token.kind = t.1 := (congrArg Prod.fst (List.cons.inj hbare).1).symm
      obtain ⟨hfinish, -⟩ | ⟨-, first, c₁, others, c₂, hfirst, hothers, rfl⟩ := hcases
      · exact absurd (hkind.symm.trans hfinish) (hend t List.mem_cons_self)
      intro d hd j hj
      obtain ⟨j, rfl⟩ : ∃ i, j = i + 1 := ⟨j - 1, by omega⟩
      obtain ⟨first', d₁, hfirst', hsame, row, hrow, hc₁, hd₁⟩ :=
        leads_statement (linewise_within hmore) n depth
          ⟨t :: lines, by simp, hlines, bare_cursorOf _, hd⟩ hfirst
      -- what is left of the lines is shorter
      obtain ⟨-, -, -, -, -, hsuffix, hless⟩ := exists_statement_of_bare rfl hfirst
      rw [bare_cursorOf, hc₁] at hsuffix hless
      have hsub : row <:+ t :: lines := by
        obtain ⟨before, hbefore⟩ := hsuffix
        rw [← List.append_assoc] at hbefore
        exact ⟨before, List.append_cancel_right hbefore⟩
      simp only [List.length_append, List.length_cons] at hless hk hj
      have hleft : ReadsAs n depth (row ++ [endMark]) (Stmt.bareAll others) :=
        hc₁ ▸ readsAs_of_statements hothers
      obtain ⟨others', d₂, hothers', hall⟩ :=
        ih row.length (by omega) hleft hrow (fun u hu => hend u (hsub.subset hu)) rfl d₁ hd₁ j
          (by simp; omega)
      obtain ⟨token', more', hdtokens, htoken'⟩ := exists_token_of_bare hd
      refine ⟨first' ++ others', d₂, ?_, ?_⟩
      · have hne : token'.kind ≠ .finish := fun heq =>
          hend t List.mem_cons_self (htoken'.symm.trans heq)
        rw [statements_of_ne_finish hdtokens hne, hfirst']
        dsimp only
        rw [hothers']
      · rw [← hss, Stmt.bareAll_append, Stmt.bareAll_append, hsame, hall, List.append_assoc]

/-- At the end of a text there are no more statements. -/
theorem readsAs_endMark : ReadsAs n depth [endMark] [] := by
  intro c hc m hm
  obtain ⟨token, more, htokens, hkind⟩ := exists_token_of_bare hc
  obtain ⟨m, rfl⟩ : ∃ k, m = k + 1 := ⟨m - 1, by omega⟩
  exact ⟨[], c, statements_of_finish htokens hkind m, rfl⟩

/-- What can be read goes on from nothing. -/
theorem ReadsAs.goesOn {ts : List (TokenKind × Nat)} {ss : List Stmt} (h : ReadsAs n depth ts ss) :
    GoesOn ts := by
  obtain ⟨read, c', hread, -⟩ := h _ (bare_cursorOf _) _ (Nat.lt_succ_self _)
  obtain ⟨token, tokens, m, htokens, -, hcases⟩ := statements_cases hread
  have hbare := (bare_cursorOf ts).symm.trans (bare_of_tokens htokens)
  refine ⟨token.bare, tokens.map Token.bare, hbare, ?_⟩
  obtain ⟨hfinish, -⟩ | ⟨-, first, c₁, others, c₂, hfirst, -⟩ := hcases
  · rw [show token.bare.1 = .finish from hfinish]
    exact ⟨nofun, nofun⟩
  · have hbegins : beginsNothing token.kind = false := Bool.eq_false_iff.mpr fun hnothing => by
      obtain ⟨e, he⟩ := failsOnNothing_statement n depth htokens hnothing
      rw [he] at hfirst
      cases hfirst
    constructor
    · intro (heq : token.kind = word "else")
      rw [heq] at hbegins
      cases hbegins
    · intro (heq : token.kind = word "elif")
      rw [heq] at hbegins
      cases hbegins

/-- What can be read does not begin with a mark of indentation. -/
theorem ReadsAs.ne_indent {ts : List (TokenKind × Nat)} {ss : List Stmt}
    (h : ReadsAs rowLength blockDepth ts ss) : ∀ first ∈ ts.head?, first.1 ≠ .indent := by
  rintro ⟨kind, bracketed⟩ hhead rfl
  obtain ⟨ts, rfl⟩ := List.head?_eq_some_iff.mp hhead
  have hrefused : ∃ refusal, statements (statement rowLength blockDepth) (ts.length + 2)
      (cursorOf ((.indent, bracketed) :: ts)) = .error refusal := ⟨_, rfl⟩
  obtain ⟨read, c', hread, -⟩ := h _ (bare_cursorOf _) (ts.length + 2) (Nat.lt_succ_self _)
  obtain ⟨refusal, hrefused⟩ := hrefused
  rw [hrefused] at hread
  cases hread

end Parser

open Stencil.Code.Parser

/-! ## Code -/

/-- The tokens of a text, without lines. -/
def bareTokens (t : Text) : List (TokenKind × Nat) := (tokens t).tokens.map Token.bare

/-- Code is read from its tokens, whatever lines they stand on. -/
theorem readsAs_of_parse {t : Text} {ss : List Stmt} (h : parse t = .ok ss) :
    '\x00' ∉ t ∧ ReadsAs rowLength blockDepth (bareTokens t) (Stmt.bareAll ss) ∧
      ∃ token ∈ bareTokens t, token.1 = .finish := by
  unfold parse at h
  split at h
  case isTrue => cases h
  case isFalse hnul =>
    dsimp only at h
    cases hread : statements (statement rowLength blockDepth) ((tokens t).tokens.length + 2)
        ⟨tokens t, 1⟩ with
    | error refusal =>
      rw [hread] at h
      cases h
    | ok read =>
      obtain ⟨found, c⟩ := read
      rw [hread] at h
      obtain rfl := Except.ok.inj h
      refine ⟨by simpa using hnul, ?_, exists_finish_of_statements hread⟩
      have hsame : Stmt.bareAll (Stmt.mapLinesAll (withinLines t) found) = Stmt.bareAll found :=
        Stmt.mapLinesAll_mapLinesAll (fun _ => 0) (withinLines t) found
      rw [hsame]
      exact readsAs_of_statements hread

/-- **Tokens that can be read are those of code.** -/
theorem exists_parse_of_readsAs {t : Text} {ss : List Stmt} (hnul : '\x00' ∉ t)
    (h : ReadsAs rowLength blockDepth (bareTokens t) ss) :
    ∃ ss', parse t = .ok ss' ∧ Stmt.bareAll ss' = ss := by
  have hcontains : t.contains '\x00' = false := by simpa using hnul
  obtain ⟨found, c, hread, hfound⟩ := h ⟨tokens t, 1⟩ rfl ((tokens t).tokens.length + 2)
    (by simp [bareTokens])
  refine ⟨Stmt.mapLinesAll (withinLines t) found, ?_, ?_⟩
  · unfold parse
    rw [hcontains]
    dsimp only
    rw [if_neg Bool.false_ne_true, hread]
  · rw [← hfound]
    exact Stmt.mapLinesAll_mapLinesAll (fun _ => 0) (withinLines t) found

/-- **Code is read without lines.** A text whose tokens are those of code, but for their lines, is
the same code. -/
theorem exists_parse_of_bare {t t' : Text} {ss : List Stmt} (hnul : '\x00' ∉ t')
    (htokens : (tokens t').tokens.map Token.bare = (tokens t).tokens.map Token.bare)
    (h : parse t = .ok ss) : ∃ ss', parse t' = .ok ss' ∧ SameCode ss' ss := by
  obtain ⟨-, hreads, -⟩ := readsAs_of_parse h
  exact exists_parse_of_readsAs hnul ((show bareTokens t' = bareTokens t from htokens) ▸ hreads)

end Stencil.Code
