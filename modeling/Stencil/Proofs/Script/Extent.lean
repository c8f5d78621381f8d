import Stencil.Proofs.Code.Lines
import Stencil.Proofs.Script.Block
import Stencil.Proofs.Script.Layout

/-!
# The lines that statements take

The statements of a segment stand on the lines that the layout gives to the segment, and on no
other: a renumbering that leaves these lines alone leaves the statements alone. For a block of code
this rests on its carriage returns, since a carriage return by itself ends a line for the reader of
the code and for nobody else.

* `Segment.mapLinesAll_statements`: the statements of one segment.
* `mapLinesAll_flatten_parts`: the statements of a script.
* `Segment.writtenOn_firstLine`: the authored lines that a segment was written on.
-/

namespace Stencil

open Code (Stmt)

/-- Every carriage return in the code of the segment stands in front of a newline. -/
def Segment.ReturnsPaired (s : Segment) : Prop :=
  match s.body with
  | .code t => Text.returnsPaired t = true
  | _ => True

/-- The code of the block is read in no more lines than the block is high. -/
def Block.ReadInPlace (b : Block) : Prop := (Code.codeLines b.code).count '\n' ≤ b.height

/-- The code of the segment, if it has any, is read in no more lines than its block is high. -/
def Segment.ReadInPlace (s : Segment) : Prop :=
  match s.body with
  | .code t => (Block.ofText t s.line).ReadInPlace
  | _ => True

theorem Segment.ReturnsPaired.readInPlace {s : Segment} (h : s.ReturnsPaired) : s.ReadInPlace := by
  rw [Segment.ReturnsPaired] at h
  rw [Segment.ReadInPlace]
  cases hbody : s.body with
  | code t =>
    rw [hbody] at h
    obtain ⟨skipped, hholds⟩ := Block.exists_holds_ofText t s.line
    exact Block.count_codeLines_le (hholds.returnsPaired_code h)
  | _ => trivial

/-- A renumbering leaves the lines from `first` on alone, as many as given. -/
def Fixes (f : Nat → Nat) (first height : Nat) : Prop :=
  ∀ line, first ≤ line → line < first + height → f line = line

/-! ## Code -/

theorem exists_eq_mapLinesAll_of_parse {t : Text} {ss : List Stmt} (h : Code.parse t = .ok ss) :
    ∃ read, ss = Stmt.mapLinesAll (Code.withinLines t) read := by
  rw [Code.parse] at h
  split at h
  · cases h
  · dsimp only at h
    split at h
    · exact ⟨_, (Except.ok.inj h).symm⟩
    · cases h

theorem withinLines_mem {b : Block} (h : b.ReadInPlace) (line : Nat) :
    1 ≤ Code.withinLines b.code line ∧ Code.withinLines b.code line ≤ b.height := by
  rw [Block.ReadInPlace] at h
  have hheight : 1 ≤ b.height := Nat.le_add_left 1 _
  rw [Code.withinLines]
  omega

/-- Where a line of a block is found once the block is placed on the lines from `first` on. -/
theorem exists_withinLines (b : Block) {first : Nat} (hfirst : 1 ≤ first) (line : Nat) :
    ∃ k, Code.withinLines b.code line + (first - 1) = first + k ∧ (b.ReadInPlace → k < b.height) := by
  have hlow : 1 ≤ Code.withinLines b.code line := le_max_left 1 _
  refine ⟨Code.withinLines b.code line - 1, by omega, fun h => ?_⟩
  have hhigh := (withinLines_mem h line).2
  omega

/-- The statements of a block that is placed on the lines from `first` on. -/
theorem mapLinesAll_block {f : Nat → Nat} {first : Nat} (hfirst : 1 ≤ first) {b : Block}
    (hplace : b.ReadInPlace) (hf : Fixes f first b.height) {ss : List Stmt}
    (hparse : Code.parse b.code = .ok ss) :
    Stmt.mapLinesAll f (Stmt.mapLinesAll (· + (first - 1)) ss) =
      Stmt.mapLinesAll (· + (first - 1)) ss := by
  obtain ⟨read, rfl⟩ := exists_eq_mapLinesAll_of_parse hparse
  rw [Stmt.mapLinesAll_mapLinesAll, Stmt.mapLinesAll_mapLinesAll, Stmt.mapLinesAll_mapLinesAll]
  congr 1
  funext line
  obtain ⟨hlow, hhigh⟩ := withinLines_mem hplace line
  exact hf (Code.withinLines b.code line + (first - 1)) (by omega) (by omega)

/-! ## Segments -/

theorem mapLinesAll_literalStmt (f : Nat → Nat) (line : Nat) (t : Text) :
    Stmt.mapLinesAll f [literalStmt line t] = [literalStmt (f line) t] := rfl

theorem mapLinesAll_interpolationStmt (f : Nat → Nat) (line : Nat) (name : Text)
    (style : Option Text) :
    Stmt.mapLinesAll f [interpolationStmt line name style] =
      [interpolationStmt (f line) name style] := rfl

/-- **The statements of a segment stand on its lines.** -/
theorem Segment.mapLinesAll_statements {f : Nat → Nat} {first : Nat} (hfirst : 1 ≤ first)
    {s : Segment} (hreadable : s.Readable) (hplace : s.ReadInPlace)
    (hf : Fixes f first s.height) :
    Stmt.mapLinesAll f (s.statements first) = s.statements first := by
  rw [Segment.Readable] at hreadable
  rw [Segment.ReadInPlace] at hplace
  rw [Segment.height] at hf
  rw [Segment.statements]
  cases hbody : s.body with
  | literal t =>
    rw [hbody] at hf
    cases t with
    | nil => rfl
    | cons c t =>
      have hline : f first = first := hf first le_rfl (Nat.lt_succ_self first)
      exact (mapLinesAll_literalStmt f first _).trans (by rw [hline])
  | interpolation name style =>
    rw [hbody] at hf
    have hline : f first = first := hf first le_rfl (Nat.lt_succ_self first)
    exact (mapLinesAll_interpolationStmt f first name style).trans (by rw [hline])
  | code t =>
    rw [hbody] at hf hreadable hplace
    dsimp only at hf hreadable hplace ⊢
    cases hcode : s.code with
    | nil => rfl
    | cons st ss =>
      rw [hcode] at hf hreadable
      exact mapLinesAll_block hfirst hplace hf hreadable
  | directive path => rfl

theorem mapLinesAll_flatten_parts {f : Nat → Nat} {first : Nat} (hfirst : 1 ≤ first)
    {ss : List Segment} (hreadable : ∀ s ∈ ss, s.Readable) (hplace : ∀ s ∈ ss, s.ReadInPlace)
    (hf : Fixes f first (totalHeight ss)) :
    Stmt.mapLinesAll f (parts first ss).flatten = (parts first ss).flatten := by
  induction ss generalizing first with
  | nil => rfl
  | cons s ss ih =>
    have hparts : parts first (s :: ss) = s.statements first :: parts (first + s.height) ss := rfl
    rw [totalHeight] at hf
    obtain ⟨hs, hss⟩ := List.forall_mem_cons.mp hreadable
    obtain ⟨hp, hps⟩ := List.forall_mem_cons.mp hplace
    have hhead : Fixes f first s.height := fun line hlow hhigh => hf line hlow (by omega)
    have hrest : Fixes f (first + s.height) (totalHeight ss) :=
      fun line hlow hhigh => hf line (by omega) (by omega)
    rw [hparts, List.flatten_cons, Stmt.mapLinesAll_append,
      Segment.mapLinesAll_statements hfirst hs hp hhead, ih (by omega) hss hps hrest]

/-! ## Authored lines -/

/-- Line `k` of a segment, counted from 0, was written on a line of its file. A literal and an
interpolation have one line, the one on which they begin. The lines of a block are those in which its
code is read: one by one the lines of its text, but for blank lines in front, for indentation, and for
carriage returns at their ends. -/
def Segment.WrittenOn (s : Segment) (k : Nat) (authored : Int) : Prop :=
  match s.body with
  | .code t =>
    let read := Text.lines (Text.unixNewlines (Block.ofText t s.line).code)
    ∃ skipped : Nat, authored = s.line + (skipped + k : Nat) ∧ k < read.length ∧
      (∀ l ∈ (Text.lines t).take skipped, l.all Text.isBlank = true) ∧
      List.Forall₂ (fun read written => Text.EqUpToIndent read (Text.dropReturn written)) read
        ((Text.lines t).drop skipped)
  | _ => authored = s.line

theorem Segment.writtenOn_of_code {s : Segment} {t : Text} (hbody : s.body = .code t)
    (hpaired : s.ReturnsPaired) {k : Nat} (hk : k < (Block.ofText t s.line).height) :
    s.WrittenOn k ((Block.ofText t s.line).line + k) := by
  rw [Segment.ReturnsPaired, hbody] at hpaired
  rw [Segment.WrittenOn, hbody]
  obtain ⟨skipped, hholds⟩ := Block.exists_holds_ofText t s.line
  have hread := hholds.forall₂_lines_unixNewlines hpaired
  refine ⟨skipped, ?_, ?_, hholds.blank, hread⟩
  · rw [hholds.line_eq]
    push_cast
    rw [Int.add_assoc]
  · have hcount := congrArg List.length
      (Text.lines_unixNewlines (hholds.returnsPaired_code hpaired))
    rw [List.length_map, Text.length_lines (Block.ofText t s.line).code] at hcount
    rwa [hcount]

theorem Segment.writtenOn_firstLine {s : Segment} (hpaired : s.ReturnsPaired) {k : Nat}
    (hk : k < s.height) : s.WrittenOn k (s.firstLine + k) := by
  rw [Segment.height] at hk
  rw [Segment.firstLine]
  cases hbody : s.body with
  | literal t =>
    rw [hbody] at hk
    rw [Segment.WrittenOn, hbody]
    cases t with
    | nil => cases hk
    | cons c t =>
      obtain rfl : k = 0 := by simpa using hk
      exact Int.add_zero s.line
  | interpolation name style =>
    rw [hbody] at hk
    rw [Segment.WrittenOn, hbody]
    obtain rfl : k = 0 := by simpa using hk
    exact Int.add_zero s.line
  | code t =>
    rw [hbody] at hk
    dsimp only at hk
    split at hk
    · cases hk
    · exact Segment.writtenOn_of_code hbody hpaired hk
  | directive path =>
    rw [hbody] at hk
    cases hk

end Stencil
