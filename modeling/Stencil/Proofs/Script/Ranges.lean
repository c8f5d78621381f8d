import Stencil.Proofs.Scan.Spelling
import Stencil.Proofs.Script.Extent
import Stencil.Proofs.Script.Markers

/-!
# The lines of statements

The statements of a block of code, and the statements inside them, stand on the lines of the script
that have the markers of the block, if the block is read in no more lines than it is high. A block
that holds a carriage return by itself may be read in more: its last statements then stand on lines
that belong to the segments behind it.

* `Segment.exists_span_of_nested`: the lines of one statement.
* `statements_keep_to_their_lines`: the statements of a script.
* `not_statements_keep_to_their_lines_of_carriage_return`: a statement on the line of another segment.
-/

namespace Stencil

open Code (Stmt)

/-! ## Statements of a segment -/

/-- **The lines of a statement**, counted from the first line of its segment. -/
theorem Segment.exists_span_of_nested {s : Segment} {first : Nat} (hfirst : 1 ≤ first) {st : Stmt}
    (hst : st ∈ Stmt.nestedAll (s.statements first)) :
    ∃ i j, st.span.first = first + i ∧ st.span.last = first + j ∧
      (s.ReadInPlace → i < s.height ∧ j < s.height) := by
  rw [Segment.statements] at hst
  cases hbody : s.body with
  | literal t =>
    rw [hbody] at hst
    cases t with
    | nil => cases hst
    | cons c t =>
      obtain rfl := List.mem_singleton.mp hst
      exact ⟨0, 0, rfl, rfl, fun _ => by simp [Segment.height, hbody]⟩
  | interpolation name style =>
    rw [hbody] at hst
    obtain rfl := List.mem_singleton.mp hst
    exact ⟨0, 0, rfl, rfl, fun _ => by simp [Segment.height, hbody]⟩
  | directive path =>
    rw [hbody] at hst
    cases hst
  | code t =>
    rw [hbody] at hst
    have hne : s.code ≠ [] := fun hnil => by
      rw [hnil] at hst
      cases hst
    -- the statement was read on lines kept within the block and moved down with the block
    obtain ⟨read, hread⟩ := exists_eq_mapLinesAll_of_parse (Segment.parse_of_code_ne_nil hbody hne)
    rw [hread, Stmt.mapLinesAll_mapLinesAll, Stmt.nestedAll_mapLinesAll, Stmt.mapLinesAll_eq_map]
      at hst
    obtain ⟨st, -, rfl⟩ := List.mem_map.mp hst
    obtain ⟨i, hi, hbegin⟩ := exists_withinLines (Block.ofText t s.line) hfirst st.span.first
    obtain ⟨j, hj, hend⟩ := exists_withinLines (Block.ofText t s.line) hfirst st.span.last
    rw [Stmt.span_mapLines, Segment.ReadInPlace, hbody, Segment.height_of_code hbody hne]
    exact ⟨i, j, hi, hj, fun hplace => ⟨hbegin hplace, hend hplace⟩⟩

/-- Segments stand below those in front of them. -/
theorem pairwise_layout (first : Nat) (ss : List Segment) :
    (layout first ss).Pairwise fun p q => p.1 + p.2.height ≤ q.1 := by
  induction ss generalizing first with
  | nil => exact .nil
  | cons s ss ih => exact .cons (fun _ hq => le_of_mem_layout hq) (ih (first + s.height))

/-! ## Statements of a script -/

/-- **Statements keep to the lines of their segment.** The statements of a script are those of the
segments, and so are its markers. A segment that is read in place has markers for the first and the
last line of each of its statements, nested ones included; the lines between them are located in the
file of the segment, on the lines that it was written on; and the statements of all later segments
stand below. Code in which carriage returns only stand in front of newlines is read in place. -/
theorem statements_keep_to_their_lines {d : Document} {sources : List (Text × Text)}
    {warnings : List IncludeWarning} {draft : Draft} {script : Script}
    (h : ((Generation.script d sources warnings).run draft).1 = .ok script) :
    script.body = ((layout 1 d.segments).map fun p => p.2.statements p.1).flatten ∧
      script.markers = (layout 1 d.segments).flatMap (fun p => p.2.markers p.1) ∧
      (∀ first s, (first, s) ∈ layout 1 d.segments → s.ReadInPlace →
        ∀ st ∈ Stmt.nestedAll (s.statements first),
          st.span.first ∈ (s.markers first).map Marker.line ∧
          st.span.last ∈ (s.markers first).map Marker.line ∧
          ∀ line : Nat, st.span.first ≤ line → line ≤ st.span.last →
            script.locate line = some (s.filename, s.firstLine + (line - first : Nat))) ∧
      (layout 1 d.segments).Pairwise (fun p q => p.2.ReadInPlace →
        ∀ st ∈ Stmt.nestedAll (p.2.statements p.1), ∀ st' ∈ Stmt.nestedAll (q.2.statements q.1),
          max st.span.first st.span.last < min st'.span.first st'.span.last) ∧
      ∀ s ∈ d.segments, s.ReturnsPaired → s.ReadInPlace := by
  have hlaid := laysOut_of_script h
  refine ⟨hlaid.body_eq, hlaid.markers_eq, fun first s hs hplace st hst => ?_, ?_,
    fun s _ hpaired => hpaired.readInPlace⟩
  · obtain ⟨i, j, hbegin, hend, hheight⟩ :=
      Segment.exists_span_of_nested (le_of_mem_layout hs) hst
    obtain ⟨hi, hj⟩ := hheight hplace
    rw [map_line_markers, hbegin, hend, List.mem_range'_1, List.mem_range'_1]
    refine ⟨⟨by omega, by omega⟩, ⟨by omega, by omega⟩, fun line hlow hhigh => ?_⟩
    have hline : first + (line - first) = line := by omega
    have hlocate := hlaid.locate_eq hs (show line - first < s.height by omega)
    rwa [hline] at hlocate
  · refine (pairwise_layout 1 d.segments).imp_of_mem fun {p q} hp hq hbelow hplace st hst => ?_
    intro st' hst'
    obtain ⟨i, j, hbegin, hend, hheight⟩ :=
      Segment.exists_span_of_nested (le_of_mem_layout hp) hst
    obtain ⟨i', j', hbegin', hend', -⟩ := Segment.exists_span_of_nested (le_of_mem_layout hq) hst'
    obtain ⟨hi, hj⟩ := hheight hplace
    omega

/-- A statement inside a branch, in a block that begins on the line below its mark, in front of a text
from another file. -/
theorem statements_keep_to_their_lines_of_branch :
    let s : Segment := ⟨.code "\nif True:\n    y = 1\n".toList, "a".toList, 1⟩
    let d : Document := ⟨"a".toList, [s, ⟨.literal "t".toList, "b".toList, 5⟩], []⟩
    ∃ script st, generate d [] [] = .ok script ∧ st ∈ Stmt.nestedAll (s.statements 1) ∧
      st.span = ⟨2, 2⟩ ∧ st.span.last ∈ (s.markers 1).map Marker.line ∧
      script.locate 2 = some ("a".toList, 3) := by
  intro s d
  obtain ⟨script, hscript⟩ := exists_ok_of_isOk (x := generate d [] []) (by decide +kernel)
  have hmem : (⟨2, 2⟩ : Code.Span) ∈ (Stmt.nestedAll (s.statements 1)).map Stmt.span := by
    decide +kernel
  obtain ⟨st, hst, hspan⟩ := List.mem_map.mp hmem
  obtain ⟨-, -, hlines, -, hread⟩ := statements_keep_to_their_lines hscript
  have hplace : s.ReadInPlace :=
    hread s List.mem_cons_self (by simp [Segment.ReturnsPaired, s, Text.returnsPaired])
  obtain ⟨-, hlast, hlocate⟩ := hlines 1 s List.mem_cons_self hplace st hst
  have hfirstLine : s.firstLine = 2 := by decide +kernel
  refine ⟨script, st, hscript, hst, hspan, hlast, ?_⟩
  have hsecond := hlocate 2 (by rw [hspan]) (by rw [hspan])
  rwa [hfirstLine] at hsecond

/-- **A carriage return by itself** puts a statement on the line of the segment behind. The block is
read in two lines and has the marker of one, so that its second statement is located in the file of
the text. -/
theorem not_statements_keep_to_their_lines_of_carriage_return :
    let s : Segment := ⟨.code "x = 1\ry = 2".toList, "a".toList, 1⟩
    let d : Document := ⟨"a".toList, [s, ⟨.literal "t".toList, "b".toList, 5⟩], []⟩
    ∃ script st, generate d [] [] = .ok script ∧ st ∈ Stmt.nestedAll (s.statements 1) ∧
      st.span = ⟨2, 2⟩ ∧ (s.markers 1).map Marker.line = [1] ∧
      script.locate 2 = some ("b".toList, 5) := by
  intro s d
  obtain ⟨script, hscript⟩ := exists_ok_of_isOk (x := generate d [] []) (by decide +kernel)
  have hmem : (⟨2, 2⟩ : Code.Span) ∈ (Stmt.nestedAll (s.statements 1)).map Stmt.span := by
    decide +kernel
  obtain ⟨st, hst, hspan⟩ := List.mem_map.mp hmem
  refine ⟨script, st, hscript, hst, hspan, by decide +kernel, ?_⟩
  have hmarkers : script.markers = [⟨1, "a".toList, 1⟩, ⟨2, "b".toList, 5⟩] :=
    (laysOut_of_generate hscript).markers_eq.trans (by decide +kernel)
  rw [Script.locate, hmarkers]
  decide +kernel

end Stencil
