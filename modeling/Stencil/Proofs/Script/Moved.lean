import Stencil.Proofs.Text.Margin
import Stencil.Script.Block

/-!
# Blocks that are moved

A block whose code begins on a line of its own may stand at any indentation: moving all its lines by
the same blanks and tabs changes neither its code nor the line on which the code begins, and code
that has been prepared once is ready.

* `moved_blocks_are_equal`: blocks that differ in where they are indented.
-/

namespace Stencil

open Text (Shifted dedent isIndent lines)

/-- The block of a text whose first line is blank is what stands below that line, without its
margin. -/
theorem Block.exists_ofText_eq {t first : Text} {rest : List Text} (ht : lines t = first :: rest)
    (hfirst : first.all Text.isBlank = true) (line : Int) :
    (rest = [] ∧ Block.ofText t line = ⟨dedent first, line⟩) ∨
      ∃ below, rest = lines below ∧ Block.ofText t line = ⟨dedent below, line + 1⟩ := by
  rw [Block.ofText]
  cases hcut : Text.cutAt? ['\n'] t with
  | none =>
    have hlines := Text.lines_of_cutAt?_eq_none hcut
    have hnot : '\n' ∉ t := Text.not_mem_of_mem_lines (hlines ▸ List.mem_singleton_self t)
    obtain ⟨rfl, rfl⟩ := List.cons_eq_cons.mp (hlines.symm.trans ht)
    exact .inl ⟨rfl, by rw [Text.dedent_of_not_mem hnot]⟩
  | some cut =>
    obtain ⟨start, below⟩ := cut
    obtain ⟨rfl, rfl⟩ := List.cons_eq_cons.mp ((Text.lines_of_cutAt? hcut).symm.trans ht)
    exact .inr ⟨below, rfl, if_pos hfirst⟩

/-- **A block does not depend on where it is indented.** When its first line is blank, and the lines
below are moved by the same blanks and tabs, but for lines of blanks and tabs alone, which may be
any, the block is the same, its code and its line. And code that has been prepared, put behind an
empty first line, comes out as it is. -/
theorem moved_blocks_are_equal {t t' first w : Text} {rest rest' : List Text}
    (ht : lines t = first :: rest) (ht' : lines t' = first :: rest')
    (hfirst : first.all Text.isBlank = true) (hw : w.all isIndent = true)
    (h : List.Forall₂ (Shifted w) rest rest') (line : Int) :
    Block.ofText t' line = Block.ofText t line ∧
      ∀ line', (Block.ofText ('\n' :: (Block.ofText t line).code) line').code =
        (Block.ofText t line).code := by
  have hblock := Block.exists_ofText_eq ht hfirst line
  constructor
  · have hblock' := Block.exists_ofText_eq ht' hfirst line
    obtain ⟨hnil, hblock⟩ | ⟨below, hbelow, hblock⟩ := hblock
    · obtain ⟨hnil', hblock'⟩ | ⟨below', hbelow', -⟩ := hblock'
      · rw [hblock, hblock']
      · rw [hnil, hbelow'] at h
        exact absurd (List.forall₂_nil_left_iff.mp h) (Text.split_ne_nil '\n' below')
    · obtain ⟨hnil', -⟩ | ⟨below', hbelow', hblock'⟩ := hblock'
      · rw [hbelow, hnil'] at h
        exact absurd (List.forall₂_nil_right_iff.mp h) (Text.split_ne_nil '\n' below)
      · rw [hbelow, hbelow'] at h
        have hdedent : dedent below' = dedent below :=
          congrArg (Text.join ['\n']) (Text.withoutMargin_eq_of_shifted hw h)
        rw [hblock, hblock', hdedent]
  · intro line'
    obtain ⟨code, hcode⟩ : ∃ code, (Block.ofText t line).code = dedent code := by
      obtain ⟨-, hblock⟩ | ⟨below, -, hblock⟩ := hblock <;> exact ⟨_, by rw [hblock]⟩
    rw [hcode]
    show dedent (dedent code) = dedent code
    exact Text.dedent_dedent code

/-- A block with tabs and blanks in its margin, a blank line and a closing line, moved by a tab. -/
theorem moved_blocks_are_equal_of_tab :
    let t : Text := "\n  if a:\n  \tb()\n\n ".toList
    let t' : Text := "\n\t  if a:\n\t  \tb()\n   \n\t".toList
    Block.ofText t' 4 = Block.ofText t 4 ∧ Block.ofText t 4 = ⟨"if a:\n\tb()\n\n".toList, 5⟩ := by
  intro t t'
  have hmoved : List.Forall₂ (Shifted ['\t'])
      ["  if a:".toList, "  \tb()".toList, [], [' ']]
      ["\t  if a:".toList, "\t  \tb()".toList, "   ".toList, ['\t']] := by
    refine .cons rfl (.cons rfl (.cons rfl (.cons rfl .nil)))
  have ht : lines t = [] :: ["  if a:".toList, "  \tb()".toList, [], [' ']] := by decide
  have ht' : lines t' = [] :: ["\t  if a:".toList, "\t  \tb()".toList, "   ".toList, ['\t']] := by
    decide
  obtain ⟨hsame, -⟩ := moved_blocks_are_equal ht ht' rfl rfl hmoved 4
  exact ⟨hsame, by decide⟩

end Stencil
