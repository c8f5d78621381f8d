import Stencil.Proofs.Text.Lines
import Stencil.Script.Block

/-!
# The lines of a code block

The code of a block has the lines of the text between the marks, but for a blank line behind the
opening mark, which is left out. Each of them is indented less, at most, than it is written. As long
as carriage returns only stand in front of newlines, these are the lines in which the code is read,
too.

* `Block.exists_unindented_ofText`: the lines of the code and those of the text.
* `Block.Holds.forall₂_lines_unixNewlines`: the lines in which the code is read.
-/

namespace Stencil

open Text (EqUpToIndent LinesPaired Unindented dropReturn returnsPaired)

/-- The code holds the lines of a text that begins on a line, but for the first `skipped`, which are
blank. -/
structure Block.Holds (b : Block) (t : Text) (line : Int) (skipped : Nat) : Prop where
  line_eq : b.line = line + skipped
  blank : ∀ l ∈ (Text.lines t).take skipped, l.all Text.isBlank = true
  lines : List.Forall₂ EqUpToIndent (Text.lines b.code) ((Text.lines t).drop skipped)

namespace Block

/-- A first line that has lost its indentation, with other lines below it. -/
theorem forall₂_lines_append {first below rest : Text} (hfirst : '\n' ∉ first)
    (h : List.Forall₂ Unindented (Text.lines below) (Text.lines rest)) :
    List.Forall₂ Unindented
      (Text.lines (first.dropWhile Text.isIndent ++ '\n' :: below)) (first :: Text.lines rest) := by
  have hdrop : '\n' ∉ first.dropWhile Text.isIndent :=
    fun hmem => hfirst ((List.dropWhile_sublist _).subset hmem)
  rw [Text.lines, Text.split_append hdrop]
  exact .cons (Text.unindented_dropWhile first) h

/-- **The code of a block has the lines of its text**, each without some of its indentation, but for
the first line if it is blank. -/
theorem exists_unindented_ofText (t : Text) (line : Int) :
    ∃ skipped : Nat, skipped ≤ 1 ∧ (Block.ofText t line).line = line + skipped ∧
      (∀ l ∈ (Text.lines t).take skipped, l.all Text.isBlank = true) ∧
      List.Forall₂ Unindented (Text.lines (Block.ofText t line).code)
        ((Text.lines t).drop skipped) := by
  rw [Block.ofText]
  cases hcut : Text.cutAt? ['\n'] t with
  | none =>
    have hlines := Text.lines_of_cutAt?_eq_none hcut
    have hnot : '\n' ∉ t := Text.not_mem_of_mem_lines (hlines ▸ List.mem_singleton_self t)
    have hdrop : '\n' ∉ t.dropWhile Text.isIndent :=
      fun hmem => hnot ((List.dropWhile_sublist _).subset hmem)
    refine ⟨0, Nat.zero_le 1, by simp, by simp, ?_⟩
    rw [List.drop_zero, hlines, Text.lines, Text.split_of_not_mem hdrop]
    exact .cons (Text.unindented_dropWhile t) .nil
  | some cut =>
    obtain ⟨first, rest⟩ := cut
    have hlines := Text.lines_of_cutAt? hcut
    have hfirst : '\n' ∉ first := Text.not_mem_of_mem_lines (hlines ▸ List.mem_cons_self)
    dsimp only
    by_cases hblank : first.all Text.isBlank = true
    · rw [if_pos hblank]
      refine ⟨1, le_rfl, by simp, by simpa [hlines] using hblank, ?_⟩
      rw [hlines, List.drop_one, List.tail_cons]
      exact Text.forall₂_lines_dedent rest
    · rw [if_neg hblank]
      refine ⟨0, Nat.zero_le 1, by simp, by simp, ?_⟩
      rw [List.drop_zero, hlines]
      dsimp only
      split
      · exact forall₂_lines_append hfirst
          (List.forall₂_same.mpr fun l _ => Text.unindented_refl l)
      · exact forall₂_lines_append hfirst (Text.forall₂_lines_dedent rest)

theorem exists_holds_ofText (t : Text) (line : Int) :
    ∃ skipped, (Block.ofText t line).Holds t line skipped := by
  obtain ⟨skipped, -, hline, hblank, hlines⟩ := exists_unindented_ofText t line
  exact ⟨skipped, hline, hblank, hlines.imp fun _ _ hab => hab.eqUpToIndent⟩

namespace Holds

variable {b : Block} {t : Text} {line : Int} {skipped : Nat}

theorem returnsPaired_code (h : b.Holds t line skipped) (ht : returnsPaired t = true) :
    returnsPaired b.code = true := by
  rw [Text.returnsPaired_iff_linesPaired] at ht ⊢
  exact LinesPaired.of_forall₂ h.lines (ht.drop skipped)

/-- The lines in which the code is read are those of the text, without their carriage returns. -/
theorem forall₂_lines_unixNewlines (h : b.Holds t line skipped) (ht : returnsPaired t = true) :
    List.Forall₂ (fun read written => EqUpToIndent read (dropReturn written))
      (Text.lines (Text.unixNewlines b.code)) ((Text.lines t).drop skipped) := by
  rw [Text.lines_unixNewlines (h.returnsPaired_code ht), List.forall₂_map_left_iff]
  exact h.lines.imp fun _ _ hab => hab.dropReturn

end Holds

/-- The code of a block holds the characters of its text, but for blanks. -/
theorem mem_code_iff {c : Char} (hc : Text.isBlank c = false) (t : Text) (line : Int) :
    c ∈ (ofText t line).code ↔ c ∈ t := by
  obtain ⟨skipped, hholds⟩ := exists_holds_ofText t line
  have hnewline : c ≠ '\n' := by
    rintro rfl
    cases hc
  have hindent : Text.isIndent c = false :=
    Bool.eq_false_iff.mpr fun h => by simp [Text.isBlank_of_isIndent h] at hc
  have hskipped : ¬ ∃ l ∈ (Text.lines t).take skipped, c ∈ l := by
    rintro ⟨l, hl, hmem⟩
    have hblank := List.all_eq_true.mp (hholds.blank l hl) c hmem
    simp [hblank] at hc
  rw [← Text.exists_mem_lines_iff hnewline, ← Text.exists_mem_lines_iff hnewline,
    Text.exists_mem_iff_of_forall₂ hindent hholds.lines]
  conv_rhs => rw [← List.take_append_drop skipped (Text.lines t)]
  simp only [List.mem_append, or_and_right, exists_or]
  exact (or_iff_right hskipped).symm

/-- The lines of a block are among those of its text. -/
theorem line_add_mem (t : Text) (line : Int) {k : Nat} (hk : k < (ofText t line).height) :
    line ≤ (ofText t line).line + k ∧ (ofText t line).line + k ≤ line + t.count '\n' := by
  obtain ⟨skipped, hholds⟩ := exists_holds_ofText t line
  have hlength := hholds.lines.length_eq
  rw [List.length_drop, Text.length_lines, Text.length_lines] at hlength
  rw [height] at hk
  rw [hholds.line_eq]
  omega

/-- Code is read in as many lines as the block is high, at most. -/
theorem count_codeLines_le {b : Block} (h : returnsPaired b.code = true) :
    (Code.codeLines b.code).count '\n' ≤ b.height := by
  have hlength := congrArg List.length (Text.lines_unixNewlines h)
  rw [List.length_map, Text.length_lines, Text.length_lines] at hlength
  have hcount : (Text.unixNewlines b.code).count '\n' = b.code.count '\n' := by omega
  rw [Code.codeLines, Block.height, ← hcount]
  split
  · rw [List.count_append]
    simp
  · omega

end Block

end Stencil
