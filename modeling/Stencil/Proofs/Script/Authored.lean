import Stencil.Proofs.Scan.Spelling
import Stencil.Proofs.Script.Block

/-!
# Code in its template

The code of a block is numbered by the lines of the template that it stands in: line `k` of the code
is a part of line `b.line + k` of the template, whichever way the block is written and however it is
indented. No line of the block is lost but a blank one behind the mark, and none is added.

* `code_stands_in_template`: the lines of a block and the lines of its template.
-/

namespace Stencil

open Text (Unindented)

/-- A part of line `line` of the text; lines are counted from 1. -/
def Text.HasOnLine (t : Text) (line : Int) (part : Text) : Prop :=
  ∃ (n : Nat) (whole : Text), line = n + 1 ∧ (Text.lines t)[n]? = some whole ∧ part <:+: whole

/-- Does a line hold more than blanks? -/
def Text.holdsMore (l : Text) : Bool := ! l.all Text.isBlank

theorem Text.HasOnLine.of_infix {t part inner : Text} {line : Int} (h : t.HasOnLine line part)
    (hinner : inner <:+: part) : t.HasOnLine line inner := by
  obtain ⟨n, whole, hline, hwhole, hpart⟩ := h
  exact ⟨n, whole, hline, hwhole, hinner.trans hpart⟩

theorem Text.Unindented.holdsMore_eq {a b : Text} (h : Unindented a b) :
    Text.holdsMore a = Text.holdsMore b := by
  obtain ⟨indent, hindent, rfl⟩ := h
  have hblank : indent.all Text.isBlank = true :=
    List.all_eq_true.mpr fun c hc => Text.isBlank_of_isIndent (List.all_eq_true.mp hindent c hc)
  rw [Text.holdsMore, Text.holdsMore, List.all_append, hblank, Bool.true_and]

/-- The lines of a block of code stand on lines of the template, from the line of its mark on. -/
theorem hasOnLine_of_code {t filename : Text} {d : Document}
    (h : scanTemplate t filename = .ok d) {s : Segment} (hs : s ∈ d.segments) {u : Text}
    (hbody : s.body = .code u) {j : Nat} {l : Text} (hl : (Text.lines u)[j]? = some l) :
    t.HasOnLine (s.line + j) l := by
  obtain ⟨before, spelling, after, ht, hspelled, hline⟩ := exists_spelling_of_mem h hs
  rw [hbody] at hspelled
  cases hspelled
  obtain ⟨whole, hwhole, hpart⟩ :=
    Text.exists_line_of_part (before ++ "<?py".toList) hl ("?>".toList ++ after)
  have hcount : (before ++ "<?py".toList).count '\n' = before.count '\n' := by
    rw [List.count_append]
    rfl
  refine ⟨before.count '\n' + j, whole, by omega, ?_, hpart⟩
  rw [ht, ← hcount, ← hwhole]
  simp only [List.append_assoc]

/-- **The line that a marker names holds the code.** Line `k` of the code of a block is, without its
indentation, a part of line `b.line + k` of the template. The lines of the block that hold more than
blanks are those of the code, one by one and in order, without some of their indentation; and the
code leaves out no line but a blank one behind the mark. -/
theorem code_stands_in_template {t filename : Text} {d : Document}
    (h : scanTemplate t filename = .ok d) {s : Segment} (hs : s ∈ d.segments) {u : Text}
    (hbody : s.body = .code u) :
    let b := Block.ofText u s.line
    (∀ (k : Nat) (l : Text), (Text.lines b.code)[k]? = some l →
        t.HasOnLine (b.line + k) (l.dropWhile Text.isIndent)) ∧
      (∀ (j : Nat) (l : Text), (Text.lines u)[j]? = some l → t.HasOnLine (s.line + j) l) ∧
      List.Forall₂ Unindented ((Text.lines b.code).filter Text.holdsMore)
        ((Text.lines u).filter Text.holdsMore) ∧
      ∃ skipped : Nat, skipped ≤ 1 ∧ b.line = s.line + skipped ∧
        (∀ l ∈ (Text.lines u).take skipped, Text.holdsMore l = false) ∧
        List.Forall₂ Unindented (Text.lines b.code) ((Text.lines u).drop skipped) := by
  intro b
  obtain ⟨skipped, hskipped, hline, hblank, hlines⟩ := Block.exists_unindented_ofText u s.line
  have hleft : ∀ l ∈ (Text.lines u).take skipped, Text.holdsMore l = false :=
    fun l hl => by rw [Text.holdsMore, hblank l hl]; rfl
  refine ⟨fun k l hl => ?_, fun j l hl => hasOnLine_of_code h hs hbody hl, ?_,
    skipped, hskipped, hline, hleft, hlines⟩
  · -- line `k` of the code is the end of line `skipped + k` of the block
    obtain ⟨hcode, rfl⟩ := List.getElem?_eq_some_iff.mp hl
    have hk : k < ((Text.lines u).drop skipped).length := hlines.length_eq ▸ hcode
    have hwritten : (Text.lines u)[skipped + k]? = some ((Text.lines u).drop skipped)[k] := by
      rw [← List.getElem?_drop]
      exact List.getElem?_eq_getElem hk
    have hstands := hasOnLine_of_code h hs hbody hwritten
    have hlineK : b.line + k = s.line + (skipped + k : Nat) := by
      show (Block.ofText u s.line).line + k = _
      rw [hline]
      omega
    obtain ⟨indent, -, hindent⟩ := hlines.get hcode hk
    have hend : ((Text.lines b.code)[k]).dropWhile Text.isIndent <:+
        ((Text.lines u).drop skipped)[k] :=
      (List.dropWhile_suffix _).trans ⟨indent, hindent.symm⟩
    rw [hlineK]
    exact hstands.of_infix hend.isInfix
  · have hmore : (Text.lines u).filter Text.holdsMore =
        ((Text.lines u).drop skipped).filter Text.holdsMore := by
      have hnone : ((Text.lines u).take skipped).filter Text.holdsMore = [] :=
        List.filter_eq_nil_iff.mpr fun l hl => by rw [hleft l hl]; exact Bool.false_ne_true
      conv_lhs => rw [← List.take_append_drop skipped (Text.lines u)]
      rw [List.filter_append, hnone, List.nil_append]
    rw [hmore]
    exact List.rel_filter (fun a b hab => by simp only [hab.holdsMore_eq]) hlines

/-- A block that begins behind its mark, on the second line of its template, and whose other lines
are indented with the template. -/
theorem code_stands_in_template_of_indented_block :
    let t : Text := "a\n <?py x = 1\n    y = 2\n\n  ?>".toList
    let u : Text := " x = 1\n    y = 2\n\n  ".toList
    ∃ d s, scanTemplate t "t".toList = .ok d ∧ s ∈ d.segments ∧ s.body = .code u ∧
      Block.ofText u s.line = ⟨"x = 1\ny = 2\n\n".toList, 2⟩ ∧
      t.HasOnLine 3 "y = 2".toList ∧
      List.Forall₂ Unindented ["x = 1".toList, "y = 2".toList]
        [" x = 1".toList, "    y = 2".toList] := by
  intro t u
  let s : Segment := ⟨.code u, "t".toList, 2⟩
  let d : Document := ⟨"t".toList, [⟨.literal "a\n ".toList, "t".toList, 1⟩, s], t⟩
  have hscan : scanTemplate t "t".toList = .ok d := eq_ok_of_toOption (by decide +kernel)
  have hmem : s ∈ d.segments := List.mem_cons_of_mem _ List.mem_cons_self
  have hblock : Block.ofText u s.line = ⟨"x = 1\ny = 2\n\n".toList, 2⟩ := by decide +kernel
  obtain ⟨hstands, -, hmore, -⟩ := code_stands_in_template hscan hmem rfl
  rw [hblock] at hstands hmore
  exact ⟨d, s, hscan, hmem, rfl, hblock, hstands 1 "y = 2".toList (by decide), hmore⟩

end Stencil
