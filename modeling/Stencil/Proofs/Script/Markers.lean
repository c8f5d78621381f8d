import Mathlib.Data.List.TakeWhile
import Mathlib.Order.Basic
import Stencil.Proofs.Script.Layout

/-!
# Locating lines

The markers of a script stand for its lines from 1 on, one marker for every line. A line is therefore
located through the marker of its own, and that marker names the segment which takes the line.

* `Marker.find?_eq_scan?`: searching by halving and from the front give the same.
* `map_line_markersFrom`: which lines have markers.
* `Script.LaysOut.locate_eq`: where a line of a script was written.
-/

namespace Stencil

namespace Marker

/-! ## Searching by halving -/

theorem lt_length_takeWhile_iff {α : Type} {q : α → Bool} {l : List α}
    (h : l.Pairwise fun a b => q b = true → q a = true) {i : Nat} {a : α} (hi : l[i]? = some a) :
    i < (l.takeWhile q).length ↔ q a = true := by
  induction l generalizing i with
  | nil => simp at hi
  | cons b l ih =>
    obtain ⟨hb, hl⟩ := List.pairwise_cons.mp h
    cases i with
    | zero =>
      obtain rfl : b = a := by simpa using hi
      cases hq : q b <;> simp [hq]
    | succ i =>
      rw [List.getElem?_cons_succ] at hi
      cases hq : q b with
      | true => simpa [List.takeWhile_cons, hq] using ih hl hi
      | false =>
        have hqa : q a ≠ true := fun hqa => by
          rw [hb a (List.mem_of_getElem? hi) hqa] at hq
          cases hq
        simp [hq, hqa]

/-- The markers in front that do not stand after a line. -/
theorem countUpTo_eq {markers : Array Marker} {line : Int} {count : Nat}
    (h : ∀ i m, markers[i]? = some m → ((m.line : Int) ≤ line ↔ i < count)) {low high : Nat}
    (hlow : low ≤ count) (hcount : count ≤ high) (hhigh : high ≤ markers.size) :
    countUpTo markers line low high = count := by
  fun_induction countUpTo markers line low high with
  | case1 low high hlt middle m hm hafter ih =>
    have hnot : ¬ middle < count := fun hmem => by
      have hle := (h middle m hm).mpr hmem
      omega
    exact ih hlow (by omega) (by omega)
  | case2 low high hlt middle m hm hbefore ih =>
    have hmem : middle < count := (h middle m hm).mp (by omega)
    exact ih (by omega) hcount hhigh
  | case3 low high hlt middle hm =>
    have hsize : markers.size ≤ middle := Array.getElem?_eq_none_iff.mp hm
    omega
  | case4 low high hge => omega

/-- **Both searches agree** on markers in order. -/
theorem find?_eq_scan? {markers : List Marker} (h : markers.Pairwise fun m n => m.line ≤ n.line)
    (line : Int) : find? markers line = scan? markers line := by
  let front := markers.takeWhile fun m => (m.line : Int) ≤ line
  have hclosed : markers.Pairwise fun m n =>
      decide ((n.line : Int) ≤ line) = true → decide ((m.line : Int) ≤ line) = true := by
    refine h.imp fun {m n} hmn hn => ?_
    have hle : (n.line : Int) ≤ line := of_decide_eq_true hn
    exact decide_eq_true (by omega)
  have hprefix : front <+: markers := List.takeWhile_prefix _
  have hcount : countUpTo markers.toArray line 0 markers.toArray.size = front.length := by
    refine countUpTo_eq (fun i m hm => ?_) (Nat.zero_le _) hprefix.length_le le_rfl
    rw [List.getElem?_toArray] at hm
    rw [lt_length_takeWhile_iff hclosed hm, decide_eq_true_iff]
  have hlast : scan? markers line = front[front.length - 1]? := List.getLast?_eq_getElem?
  rw [find?, hcount, hlast]
  cases hlength : front.length with
  | zero => simp [List.length_eq_zero_iff.mp hlength]
  | succ n =>
    have hn : n < front.length := by omega
    show markers.toArray[n]? = front[n]?
    rw [List.getElem?_toArray, List.getElem?_eq_getElem hn, hprefix.getElem hn,
      List.getElem?_eq_getElem]

theorem scan?_eq_of_mem {markers : List Marker} (h : markers.Pairwise fun m n => m.line < n.line)
    {m : Marker} (hm : m ∈ markers) : scan? markers m.line = some m := by
  induction markers with
  | nil => cases hm
  | cons n markers ih =>
    obtain ⟨hn, hrest⟩ := List.pairwise_cons.mp h
    rw [scan?]
    rcases List.mem_cons.mp hm with rfl | hm
    · have hnone : markers.takeWhile (fun k => decide ((k.line : Int) ≤ m.line)) = [] := by
        rw [List.takeWhile_eq_nil_iff]
        intro hpos hle
        have hlt := hn _ (List.getElem_mem hpos)
        have hle := of_decide_eq_true hle
        simp only [List.get_eq_getElem] at hle
        omega
      rw [List.takeWhile_cons_of_pos (by simp), hnone, List.getLast?_singleton]
    · have hlt := hn m hm
      have hscan := ih hrest hm
      rw [scan?] at hscan
      have hle : (n.line : Int) ≤ m.line := by omega
      rw [List.takeWhile_cons_of_pos (by simpa using hle), List.getLast?_cons, hscan,
        Option.getD_some]

/-- A line that has a marker of its own is located through it. -/
theorem find?_eq_of_mem {markers : List Marker} (h : markers.Pairwise fun m n => m.line < n.line)
    {m : Marker} (hm : m ∈ markers) : find? markers m.line = some m := by
  rw [find?_eq_scan? (h.imp fun hlt => hlt.le), scan?_eq_of_mem h hm]

end Marker

/-! ## The lines of segments -/

theorem map_line_markers (s : Segment) (first : Nat) :
    (s.markers first).map Marker.line = List.range' first s.height := by
  rw [Segment.markers, List.map_map, List.range'_eq_map_range]
  rfl

/-- There is a marker for every line from the first on, and no other. -/
theorem map_line_markersFrom (first : Nat) (ss : List Segment) :
    (markersFrom first ss).map Marker.line =
      List.range' first (totalHeight ss) := by
  induction ss generalizing first with
  | nil => rfl
  | cons s ss ih =>
    have hcons : markersFrom first (s :: ss) =
        s.markers first ++ markersFrom (first + s.height) ss := rfl
    rw [hcons, List.map_append, map_line_markers, ih, totalHeight,
      List.range'_append_1]

theorem markersFrom_sorted (first : Nat) (ss : List Segment) :
    (markersFrom first ss).Pairwise fun m n => m.line < n.line := by
  rw [← List.pairwise_map, map_line_markersFrom]
  exact List.pairwise_lt_range'

theorem mem_markersFrom {first : Nat} {ss : List Segment} {start k : Nat} {s : Segment}
    (hs : (start, s) ∈ layout first ss) (hk : k < s.height) :
    ⟨start + k, s.filename, s.firstLine + k⟩ ∈ markersFrom first ss :=
  List.mem_flatMap.mpr ⟨(start, s), hs, List.mem_map.mpr ⟨k, List.mem_range.mpr hk, rfl⟩⟩

/-- Every line that is laid out is taken by a segment. -/
theorem exists_mem_layout {first line : Nat} {ss : List Segment} (hfirst : first ≤ line)
    (hline : line < first + totalHeight ss) :
    ∃ start s k, (start, s) ∈ layout first ss ∧ k < s.height ∧ line = start + k := by
  induction ss generalizing first with
  | nil =>
    rw [totalHeight] at hline
    omega
  | cons s ss ih =>
    rw [totalHeight] at hline
    by_cases hlt : line < first + s.height
    · exact ⟨first, s, line - first, List.mem_cons_self, by omega, by omega⟩
    · have hbelow : first + s.height ≤ line := by omega
      obtain ⟨start, t, k, ht, hk, heq⟩ := ih hbelow (by omega)
      exact ⟨start, t, k, List.mem_cons_of_mem _ ht, hk, heq⟩

/-- A line of a script was written in the file of the segment that takes it. -/
theorem Script.LaysOut.locate_eq {script : Script} {d : Document} (h : script.LaysOut d)
    {first k : Nat} {s : Segment} (hs : (first, s) ∈ layout 1 d.segments) (hk : k < s.height) :
    script.locate (first + k : Nat) = some (s.filename, s.firstLine + k) := by
  rw [Script.locate, h.markers_eq,
    Marker.find?_eq_of_mem (markersFrom_sorted 1 d.segments) (mem_markersFrom hs hk)]
  rfl

end Stencil
