import Stencil.Proofs.Blind.Text
import Stencil.Proofs.Code.Margin
import Stencil.Proofs.Code.Recut
import Stencil.Proofs.Scan.Spelling
import Stencil.Proofs.Script.Block

/-!
# The meaning of a block

What is done to the text of a block before it is read does not change what it says, as a rule. Code
on lines of its own that can be read as it is written is the same code without its margin, unless a
line of blanks alone counts: such a line may stand in a string, or it is the last one and a
backslash joins it to the line before. Code behind the mark is read as it is written whenever it can
be.

* `block_keeps_meaning`: blocks that can be read as they are written.
-/

namespace Stencil

open Text (isBlank isIndent lines margin)

/-- Code behind the mark is read as it is written. -/
theorem Block.code_ofText_of_isCode {t : Text}
    (hbehind : ∀ first rest, t = first ++ '\n' :: rest → '\n' ∉ first → first.all isBlank = false)
    (h : Code.isCode (t.dropWhile isIndent) = true) (line : Int) :
    (Block.ofText t line).code = t.dropWhile isIndent := by
  rw [Block.ofText]
  cases hcut : Text.cutAt? ['\n'] t with
  | none => rfl
  | some cut =>
    obtain ⟨first, rest⟩ := cut
    have hfirst : '\n' ∉ first :=
      Text.not_mem_of_mem_lines (Text.lines_of_cutAt? hcut ▸ List.mem_cons_self)
    obtain rfl : t = first ++ '\n' :: rest := by simpa using Text.eq_of_cutAt? hcut
    have hblank := hbehind first rest rfl hfirst
    have hmore : (first.dropWhile isIndent).isEmpty = false := by
      rw [Bool.eq_false_iff, ne_eq, List.isEmpty_iff, List.dropWhile_eq_nil_iff]
      intro hindent
      rw [List.all_eq_true.mpr fun c hc => Text.isBlank_of_isIndent (hindent c hc)] at hblank
      cases hblank
    rw [List.dropWhile_append, if_neg (by simp [hmore])] at h ⊢
    dsimp only
    rw [if_neg (by simp [hblank]), if_pos h]

theorem not_nul_of_parse {t : Text} {ss : List Code.Stmt} (h : Code.parse t = .ok ss) :
    '\x00' ∉ t := by
  intro hmem
  rw [Code.parse, if_pos (List.contains_iff_mem.mpr hmem)] at h
  cases h

/-- **Preparing a block keeps its meaning.** Code below a blank first line that can be read as it is
written is prepared as the same code, on whatever lines, if no line of blanks stands in a string or
is joined to the end of the code, and lines that have a margin are plain. Code that begins behind
the mark is prepared as the code that it is without the blanks in front of it. -/
theorem block_keeps_meaning (line : Int) :
    (∀ (first rest : Text) (ss : List Code.Stmt), '\n' ∉ first → first.all isBlank = true →
      Code.parse rest = .ok ss →
      (margin (lines rest) = [] ∨ ∀ l ∈ lines rest, Code.PlainLine l) →
      (∀ w : Text, w ≠ [] → w.all isIndent = true → ¬ '\\' :: '\n' :: w <:+ rest) →
      (∀ token ∈ (Code.tokens rest).tokens, token.Compact) →
      ∃ ss', Code.parse (Block.ofText (first ++ '\n' :: rest) line).code = .ok ss' ∧
        Code.SameCode ss' ss) ∧
    ∀ (t : Text) (ss : List Code.Stmt),
      (∀ first rest, t = first ++ '\n' :: rest → '\n' ∉ first → first.all isBlank = false) →
      Code.parse (t.dropWhile isIndent) = .ok ss →
      Code.parse (Block.ofText t line).code = .ok ss := by
  constructor
  · intro first rest ss hfirst hblank hparse hlines hend hcompact
    have hnul : '\x00' ∉ Text.dedent rest := fun hmem =>
      not_nul_of_parse hparse ((Text.mem_dedent_iff rfl (by decide) rest).mp hmem)
    have htokens := Code.bare_tokens_of_dedented (Text.all_indent_margin (lines rest))
      (Code.dedented_dedent hlines hend) hparse hcompact
    have hcode : (Block.ofText (first ++ '\n' :: rest) line).code = Text.dedent rest := by
      rw [Block.ofText, Text.cutAt?_newline hfirst]
      dsimp only
      rw [if_pos hblank]
    rw [hcode]
    exact Code.exists_parse_of_bare hnul htokens hparse
  · intro t ss hbehind hparse
    rw [Block.code_ofText_of_isCode hbehind (by rw [Code.isCode, hparse]; rfl), hparse]

/-- A suite with blank lines, one of them empty and in a string, one in brackets, and the
indentation of the closing mark at its end. -/
theorem block_keeps_meaning_of_suite :
    let rest : Text := "if a:\n  \n\tb('''c\n\nd''',  # e\n \t\n f)\n  ".toList
    let block := Block.ofText (' ' :: '\n' :: rest) 4
    block.code = "if a:\n\n\tb('''c\n\nd''',  # e\n\n f)\n".toList ∧
      ∃ ss ss', Code.parse rest = .ok ss ∧ Code.parse block.code = .ok ss' ∧
        Code.SameCode ss' ss := by
  intro rest block
  obtain ⟨ss, hparse⟩ : ∃ ss, Code.parse rest = .ok ss :=
    exists_ok_of_isOk (by decide +kernel)
  obtain ⟨ss', hparse', hsame⟩ := (block_keeps_meaning 4).1 [' '] rest ss (by decide) (by decide)
    hparse (.inl (by decide))
    (fun w _ _ hend => absurd (hend.subset List.mem_cons_self) (by decide)) (by decide +kernel)
  exact ⟨by decide, ss, ss', hparse, hparse', hsame⟩

/-- A line of blanks in a string is part of its value. -/
theorem not_block_keeps_meaning_of_string :
    let rest : Text := "x = '''a\n   \nb'''\n".toList
    let assigned (value : String) : List Code.Stmt :=
      [.assign ⟨1, 3⟩ [.name 1 ['x']] (.constant 1 (.text value.toList))]
    Code.parse rest = .ok (assigned "a\n   \nb") ∧
      Code.parse (Block.ofText ('\n' :: rest) 1).code = .ok (assigned "a\n\nb") ∧
      ¬ Code.SameCode (assigned "a\n\nb") (assigned "a\n   \nb") := by
  intro rest assigned
  let cut (value : String) : Code.Lexed := ⟨[⟨.name ['x'], 1, 1, 0⟩, ⟨.symbol ['='], 1, 1, 0⟩,
    ⟨.string ⟨false, false, false, value.toList⟩, 1, 3, 0⟩, ⟨.newline, 3, 3, 0⟩,
    ⟨.finish, 3, 3, 0⟩], none⟩
  let behind : Code.Cursor := ⟨⟨[⟨.finish, 3, 3, 0⟩], none⟩, 3⟩
  refine ⟨?_, ?_, ?_⟩
  · have htokens : Code.tokens rest = cut "a\n   \nb" := by decide +kernel
    have hss : Code.Parser.statements
        (Code.Parser.statement Code.Parser.rowLength Code.blockDepth) 7
        ⟨cut "a\n   \nb", 1⟩ = .ok (assigned "a\n   \nb", behind) := by with_unfolding_all rfl
    exact Code.parse_of_tokens (by decide) htokens hss
  · have htokens : Code.tokens (Block.ofText ('\n' :: rest) 1).code = cut "a\n\nb" := by
      decide +kernel
    have hss : Code.Parser.statements
        (Code.Parser.statement Code.Parser.rowLength Code.blockDepth) 7
        ⟨cut "a\n\nb", 1⟩ = .ok (assigned "a\n\nb", behind) := by with_unfolding_all rfl
    exact Code.parse_of_tokens (by decide) htokens hss
  · intro hsame
    simp [Code.SameCode, assigned, Code.Stmt.mapLinesAll, Code.Stmt.mapLines,
      Code.Expr.mapLines] at hsame

end Stencil
