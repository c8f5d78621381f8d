import Stencil.Code.Parse
import Stencil.Proofs.Text.Lines

/-!
# Words of code

How a word that is a name is read when it stands in code: as one token, up to the blank behind it.
The token is the compatibility form of the word, so a word that is in that form is the name that it
spells. An assignment to such a name, of a constant or of another such name, is read as what it
says.

* `wordToken_of_isName`: the token of a name.
* `parse_assignText`, `parse_assignName`: assignments on a line.
-/

namespace Stencil.Code

open Text (isName isNameStart isNameChar unixNewlines)

/-! ## Characters -/

theorem isWordPart_of_isNameChar {c : Char} (h : isNameChar c = true) : isWordPart c = true := by
  unfold isNameChar at h
  unfold isWordPart
  split at h
  · rw [h]
    rfl
  · rename_i hc
    have hlarge : 128 ≤ c.toNat := by omega
    simp [hlarge]

theorem isWordStart_of_isNameStart {c : Char} (h : isNameStart c = true) :
    isWordStart c = true := by
  unfold isNameStart at h
  unfold isWordStart
  split at h
  · rw [h]
    rfl
  · rename_i hc
    have hlarge : 128 ≤ c.toNat := by omega
    simp [hlarge]

theorem isWordPart_of_isWordStart {c : Char} (h : isWordStart c = true) : isWordPart c = true := by
  unfold isWordStart at h
  unfold isWordPart Char.isAlphanum
  simp only [Bool.or_eq_true] at h ⊢
  tauto

/-- A word starts with a character that a word starts with, and goes on with word characters. -/
theorem exists_cons_of_isName {n : Text} (h : isName n = true) :
    ∃ c t, n = c :: t ∧ isNameStart c = true ∧ ∀ d ∈ t, isNameChar d = true := by
  unfold isName at h
  cases n with
  | nil => simp [Text.isIdentifier] at h
  | cons c t =>
    simp only [Text.isIdentifier, Bool.and_eq_true, List.all_eq_true] at h
    exact ⟨c, t, rfl, h.1.1, h.1.2⟩

theorem isWordPart_of_mem {n : Text} (h : isName n = true) {c : Char} (hc : c ∈ n) :
    isWordPart c = true := by
  obtain ⟨d, t, rfl, hd, ht⟩ := exists_cons_of_isName h
  rcases List.mem_cons.mp hc with rfl | hc
  · exact isWordPart_of_isWordStart (isWordStart_of_isNameStart hd)
  · exact isWordPart_of_isNameChar (ht c hc)

/-- What is no part of a word does not stand in a name. -/
theorem not_mem_of_isName {n : Text} (h : isName n = true) {c : Char}
    (hc : isWordPart c = false) : c ∉ n := by
  intro hmem
  rw [isWordPart_of_mem h hmem] at hc
  cases hc

/-! ## Tokens -/

/-- **The token of a name is its compatibility form.** -/
theorem wordToken_of_isName {n : Text} (h : isName n = true) :
    wordToken n = .ok (.name (Text.compatibilityForm n)) := by
  have hreserved : Text.reservedWords.contains n = false := by
    unfold isName at h
    simp only [Bool.and_eq_true, Bool.not_eq_true'] at h
    exact h.2
  have hbad : badCharacter? n = none := by
    obtain ⟨c, t, rfl, hc, ht⟩ := exists_cons_of_isName h
    rw [badCharacter?, if_pos hc, List.find?_eq_none]
    intro d hd
    simp [ht d hd]
  unfold wordToken
  rw [hbad]
  dsimp only
  rw [hreserved]
  rfl

/-- The letters in front of a word with a blank behind it end within the word. -/
theorem length_letters_le (n rest : Text) :
    (((n ++ ' ' :: rest).take 2).takeWhile Char.isAlpha).length ≤ n.length := by
  by_contra hlong
  let t : Text := n ++ ' ' :: rest
  have hletters : (t.take 2).takeWhile Char.isAlpha <+: t :=
    (List.takeWhile_prefix _).trans (List.take_prefix 2 t)
  have hblank : n ++ [' '] <+: t := ⟨rest, by simp [t]⟩
  have hwithin : n ++ [' '] <+: (t.take 2).takeWhile Char.isAlpha := by
    refine List.prefix_of_prefix_length_le hblank hletters ?_
    rw [List.length_append, List.length_singleton]
    exact Nat.lt_of_not_le hlong
  have hmem : ' ' ∈ (t.take 2).takeWhile Char.isAlpha := hwithin.subset (by simp)
  exact absurd (List.mem_takeWhile_imp hmem) (by decide)

/-- No string begins with a word that has a blank behind it. -/
theorem stringStart?_word {n : Text} (h : isName n = true) (rest : Text) :
    stringStart? (n ++ ' ' :: rest) = none := by
  have hquote : ∀ c ∈ n ++ [' '], (c == '"' || c == '\x27') = false := by
    intro c hc
    have hne (q : Char) (hq : isWordPart q = false) (hspace : q ≠ ' ') : c ≠ q := by
      rintro rfl
      rcases List.mem_append.mp hc with hc | hc
      · exact not_mem_of_isName h hq hc
      · exact hspace (List.mem_singleton.mp hc)
    simp [hne '"' (by decide) (by decide), hne '\x27' (by decide) (by decide)]
  have hletters := length_letters_le n rest
  unfold stringStart?
  generalize (((n ++ ' ' :: rest).take 2).takeWhile Char.isAlpha) = letters at hletters ⊢
  -- what follows the letters is in the word, or is the blank
  obtain ⟨c, more, hdrop, hc⟩ : ∃ c more,
      (n ++ ' ' :: rest).drop letters.length = c :: more ∧ c ∈ n ++ [' '] := by
    rw [List.drop_append_of_le_length hletters]
    cases hcut : n.drop letters.length with
    | nil => exact ⟨' ', rest, rfl, by simp⟩
    | cons c more =>
      have hmem : c ∈ n := List.mem_of_mem_drop (hcut ▸ List.mem_cons_self)
      exact ⟨c, _, rfl, List.mem_append_left _ hmem⟩
  dsimp only
  rw [hdrop]
  dsimp only
  rw [hquote c hc]
  rfl

/-- The token of a name with a blank behind it. -/
theorem readToken_word {n : Text} (h : isName n = true) (st : Layout) (last : Nat) (rest : Text) :
    ∃ c t, n = c :: t ∧ readToken st last c (t ++ ' ' :: rest) =
      .ok (st.token (.name (Text.compatibilityForm n)), st, ' ' :: rest) := by
  obtain ⟨c, t, hn, hc, -⟩ := exists_cons_of_isName h
  refine ⟨c, t, hn, ?_⟩
  have hword : n ++ ' ' :: rest = c :: (t ++ ' ' :: rest) := by rw [hn, List.cons_append]
  have hparts : ∀ d ∈ n, isWordPart d = true := fun d hd => isWordPart_of_mem h hd
  have hblank : isWordPart ' ' = false := by decide
  unfold readToken
  rw [← hword, stringStart?_word h]
  dsimp only
  rw [if_pos (isWordStart_of_isNameStart hc), List.takeWhile_append_of_pos hparts,
    List.dropWhile_append_of_pos hparts, List.takeWhile_cons_of_neg (by simp [hblank]),
    List.dropWhile_cons_of_neg (by simp [hblank]), List.append_nil, wordToken_of_isName h]

/-- Where no blank, comment, line end or backslash stands, a token is read. -/
theorem tokensFrom_readToken {c : Char} (hgap : isGap c = false) (hcomment : c ≠ '#')
    (hnewline : c ≠ '\n') (hback : c ≠ '\\') (last fuel : Nat) (st : Layout) (t : Text) :
    tokensFrom last (fuel + 1) st false (c :: t) =
      match readToken st last c t with
      | .error fault => .stop fault
      | .ok (token, st, rest) => .cons token (tokensFrom last fuel st false rest) := by
  rw [tokensFrom, List.dropWhile_cons_of_neg (by simp [hgap])]
  split
  · rename_i heq
    cases heq
  · rename_i heq
    exact absurd (List.cons.inj heq).1 hcomment
  · rename_i heq
    exact absurd (List.cons.inj heq).1 hnewline
  · rename_i heq
    exact absurd (List.cons.inj heq).1 hback
  · rename_i heq
    exact absurd (List.cons.inj heq).1 hback
  · rename_i heq
    exact absurd (List.cons.inj heq).1 hback
  · rename_i heq
    obtain ⟨rfl, rfl⟩ := List.cons.inj heq
    rfl

/-- Cutting goes on behind a name. -/
theorem tokensFrom_word {n : Text} (h : isName n = true) (last fuel : Nat) (st : Layout)
    (rest : Text) :
    tokensFrom last (fuel + 1) st false (n ++ ' ' :: rest) =
      .cons (st.token (.name (Text.compatibilityForm n)))
        (tokensFrom last fuel st false (' ' :: rest)) := by
  obtain ⟨c, t, rfl, hread⟩ := readToken_word h st last rest
  have hne (d : Char) (hd : isWordPart d = false) : c ≠ d := fun heq =>
    not_mem_of_isName h hd (heq ▸ List.mem_cons_self)
  have hgap : isGap c = false := by
    simp [isGap, hne ' ' (by decide), hne '\t' (by decide), hne '\x0c' (by decide)]
  rw [List.cons_append, tokensFrom_readToken hgap (hne '#' (by decide)) (hne '\n' (by decide))
    (hne '\\' (by decide)), hread]

/-- Indentation ends where no blank and no backslash stands. -/
theorem measureIndent_of_ne {c : Char} (hblank : c ≠ ' ') (htab : c ≠ '\t') (hform : c ≠ '\x0c')
    (hback : c ≠ '\\') (column narrow : Nat) (held : Option (Nat × Nat)) (joined : Nat) (t : Text) :
    measureIndent column narrow held joined (c :: t) =
      some ((held.getD (column, narrow)).1, (held.getD (column, narrow)).2, joined, c :: t) := by
  unfold measureIndent
  split
  · rename_i heq
    exact absurd (List.cons.inj heq).1 hblank
  · rename_i heq
    exact absurd (List.cons.inj heq).1 htab
  · rename_i heq
    exact absurd (List.cons.inj heq).1 hform
  · rename_i heq
    exact absurd (List.cons.inj heq).1 hback
  · rename_i heq
    exact absurd (List.cons.inj heq).1 hback
  · rfl

/-- A line that begins with a name is not indented. -/
theorem measureIndent_word {n : Text} (h : isName n = true) (rest : Text) :
    measureIndent 0 0 none 0 (n ++ rest) = some (0, 0, 0, n ++ rest) := by
  obtain ⟨c, t, rfl, -⟩ := exists_cons_of_isName h
  have hne (d : Char) (hd : isWordPart d = false) : c ≠ d := fun heq =>
    not_mem_of_isName h hd (heq ▸ List.mem_cons_self)
  exact measureIndent_of_ne (hne ' ' (by decide)) (hne '\t' (by decide)) (hne '\x0c' (by decide))
    (hne '\\' (by decide)) 0 0 none 0 (t ++ rest)

theorem tokensFrom_start {n : Text} (h : isName n = true) (last fuel : Nat) (rest : Text) :
    tokensFrom last (fuel + 1) .start true (n ++ rest) =
      tokensFrom last fuel .start false (n ++ rest) := by
  have hindent := measureIndent_word h rest
  obtain ⟨c, t, rfl, -⟩ := exists_cons_of_isName h
  have hne (d : Char) (hd : isWordPart d = false) : c ≠ d := fun heq =>
    not_mem_of_isName h hd (heq ▸ List.mem_cons_self)
  rw [tokensFrom, hindent]
  dsimp only [List.cons_append]
  rw [if_neg (by simp [hne '#' (by decide), hne '\n' (by decide)])]
  rfl

/-! ## Lines -/

/-- A text on one line is cut with its line ended. -/
theorem codeLines_of_not_mem {t : Text} (hbreak : '\n' ∉ t) (hreturn : '\r' ∉ t) :
    codeLines t = t ++ ['\n'] := by
  have hlines : unixNewlines t = t := Text.unixNewlines_of_not_mem hreturn
  have hlast : t.getLast? ≠ some '\n' := fun hlast => hbreak (List.mem_of_getLast? hlast)
  unfold codeLines
  rw [hlines, if_pos (by simp [hlast])]

/-- Code is read from its tokens. -/
theorem parse_of_tokens {t : Text} (hnul : '\x00' ∉ t) {lexed : Lexed} (htokens : tokens t = lexed)
    {ss : List Stmt} {rest : Cursor}
    (hss : Parser.statements (Parser.statement Parser.rowLength blockDepth)
      (lexed.tokens.length + 2) ⟨lexed, 1⟩ = .ok (ss, rest)) :
    parse t = .ok (Stmt.mapLinesAll (withinLines t) ss) := by
  have hcontains : t.contains '\x00' = false := by simpa using hnul
  unfold parse
  rw [hcontains, htokens]
  dsimp only
  rw [hss]
  rfl

/-- What stands on one line is read from the tokens of that line. -/
theorem parse_of_tokensFrom {t : Text} (hbreak : '\n' ∉ t) (hreturn : '\r' ∉ t) (hnul : '\x00' ∉ t)
    {lexed : Lexed}
    (htokens : tokensFrom 1 (2 * (t.length + 1) + 2) .start true (t ++ ['\n']) = lexed)
    {ss : List Stmt} {rest : Cursor}
    (hss : Parser.statements (Parser.statement Parser.rowLength blockDepth)
      (lexed.tokens.length + 2) ⟨lexed, 1⟩ = .ok (ss, rest)) :
    parse t = .ok (Stmt.mapLinesAll (fun _ => 1) ss) := by
  have hlines := codeLines_of_not_mem hbreak hreturn
  have hcount : (codeLines t).count '\n' = 1 := by
    rw [hlines, List.count_append, List.count_eq_zero_of_not_mem hbreak]
    rfl
  have hwithin : withinLines t = fun _ => 1 := by
    funext line
    rw [withinLines, hcount]
    omega
  have hall : tokens t = lexed := by
    unfold tokens
    dsimp only
    rw [hcount, hlines, List.length_append]
    exact htokens
  rw [parse_of_tokens hnul hall hss, hwithin]

/-! ## Assignments -/

/-- The tokens of an assignment to a name, on one line. -/
def assignTokens (n : Text) (value : TokenKind) : List Token :=
  [⟨.name n, 1, 1, 0⟩, ⟨.symbol ['='], 1, 1, 0⟩, ⟨value, 1, 1, 0⟩, ⟨.newline, 1, 1, 0⟩,
    ⟨.finish, 1, 1, 0⟩]

/-- What is ahead when an assignment has been read. -/
def afterAssign : Cursor := ⟨⟨[⟨.finish, 1, 1, 0⟩], none⟩, 1⟩

theorem statements_assignText (n : Text) :
    Parser.statements (Parser.statement Parser.rowLength blockDepth) 7
        ⟨⟨assignTokens n (.string ⟨false, false, false, ['v']⟩), none⟩, 1⟩ =
      .ok ([.assign ⟨1, 1⟩ [.name 1 n] (.constant 1 (.text ['v']))], afterAssign) := by
  with_unfolding_all rfl

theorem statements_assignName (m n : Text) :
    Parser.statements (Parser.statement Parser.rowLength blockDepth) 7
        ⟨⟨assignTokens m (.name n), none⟩, 1⟩ =
      .ok ([.assign ⟨1, 1⟩ [.name 1 m] (.name 1 n)], afterAssign) := rfl

section

variable {m n : Text} (hn : isName n = true) (hform : Text.compatibilityForm n = n)

include hn hform

/-- **The assignment of a text to a name**, on a line of its own. -/
theorem parse_assignText :
    parse (n ++ " = 'v' ".toList) =
      .ok [.assign ⟨1, 1⟩ [.name 1 n] (.constant 1 (.text ['v']))] := by
  have hnot (c : Char) (hc : isWordPart c = false) (hrest : c ∉ " = 'v' ".toList) :
      c ∉ n ++ " = 'v' ".toList := by
    rw [List.mem_append, not_or]
    exact ⟨not_mem_of_isName hn hc, hrest⟩
  have htokens : tokensFrom 1 (2 * ((n ++ " = 'v' ".toList).length + 1) + 2) .start true
      (n ++ " = 'v' ".toList ++ ['\n']) =
        ⟨assignTokens n (.string ⟨false, false, false, ['v']⟩), none⟩ := by
    have hfirst := tokensFrom_word hn 1 (2 * n.length + 16) .start "= 'v' \n".toList
    rw [hform] at hfirst
    rw [List.append_assoc, tokensFrom_start hn, List.length_append]
    exact hfirst
  exact parse_of_tokensFrom (hnot '\n' (by decide) (by decide)) (hnot '\r' (by decide) (by decide))
    (hnot '\x00' (by decide) (by decide)) htokens (statements_assignText n)

/-- **The assignment of one name to another**, on a line of its own. -/
theorem parse_assignName (hm : isName m = true) (hmform : Text.compatibilityForm m = m) :
    parse (m ++ " = ".toList ++ n ++ [' ']) =
      .ok [.assign ⟨1, 1⟩ [.name 1 m] (.name 1 n)] := by
  have hnot (c : Char) (hc : isWordPart c = false) (hrest : c ∉ " = ".toList ++ [' ']) :
      c ∉ m ++ " = ".toList ++ n ++ [' '] := by
    simp only [List.mem_append, not_or] at hrest ⊢
    exact ⟨⟨⟨not_mem_of_isName hm hc, hrest.1⟩, not_mem_of_isName hn hc⟩, hrest.2⟩
  have htokens : tokensFrom 1 (2 * ((m ++ " = ".toList ++ n ++ [' ']).length + 1) + 2) .start true
      (m ++ " = ".toList ++ n ++ [' '] ++ ['\n']) = ⟨assignTokens m (.name n), none⟩ := by
    let fuel : Nat := 2 * m.length + 2 * n.length
    have hlength : 2 * ((m ++ " = ".toList ++ n ++ [' ']).length + 1) + 2 = fuel + 12 := by
      have hequals : (" = ".toList).length = 3 := rfl
      simp only [List.length_append, List.length_singleton, hequals, fuel]
      omega
    have htext : m ++ " = ".toList ++ n ++ [' '] ++ ['\n'] =
        m ++ ' ' :: ("= ".toList ++ (n ++ " \n".toList)) := by
      simp
    have hfirst := tokensFrom_word hm 1 (fuel + 10) .start ("= ".toList ++ (n ++ " \n".toList))
    have hsecond := tokensFrom_word hn 1 (fuel + 8) .start ['\n']
    rw [hmform] at hfirst
    rw [hform] at hsecond
    have hequals : tokensFrom 1 (fuel + 10) .start false
        (' ' :: ("= ".toList ++ (n ++ " \n".toList))) =
          .cons ⟨.symbol ['='], 1, 1, 0⟩
            (tokensFrom 1 (fuel + 9) .start false (n ++ " \n".toList)) := rfl
    rw [hlength, htext, tokensFrom_start hm, hfirst, hequals]
    exact congrArg (Lexed.cons ⟨.name m, 1, 1, 0⟩ ∘ Lexed.cons ⟨.symbol ['='], 1, 1, 0⟩) hsecond
  exact parse_of_tokensFrom (hnot '\n' (by decide) (by decide)) (hnot '\r' (by decide) (by decide))
    (hnot '\x00' (by decide) (by decide)) htokens (statements_assignName m n)

end

end Stencil.Code
