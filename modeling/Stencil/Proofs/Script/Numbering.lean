import Stencil.Proofs.Scan.Spelling
import Stencil.Proofs.Script.Markers

/-!
# The numbering of a script

The lines of a script are numbered from 1 on, and every one of them has a marker: the places that
the markers name are those of the segments, one segment after the other. So a line is located
exactly if it is not below 1 and there are markers at all; a line behind the last one is located
where the last one was written.

* `script_numbers_lines`: the markers of a script, and where its lines are located.
-/

namespace Stencil

/-- Where the lines that a segment takes in a script were written: a text that is not empty and an
interpolation take one line, and code with statements takes as many as it has. -/
def Segment.places (s : Segment) : List (Text × Int) :=
  match s.body with
  | .literal [] => []
  | .literal _ => [(s.filename, s.line)]
  | .interpolation _ _ => [(s.filename, s.line)]
  | .code t =>
    let b := Block.ofText t s.line
    match Code.parse b.code with
    | .ok (_ :: _) => (Text.lines b.code).mapIdx fun k _ => (s.filename, b.line + k)
    | _ => []
  | .directive _ => []

/-! ## Places of segments -/

theorem mapIdx_lines (b : Block) (filename : Text) :
    ((Text.lines b.code).mapIdx fun k _ => (filename, b.line + k)) =
      (List.range b.height).map fun k : Nat => (filename, b.line + (k : Int)) := by
  refine List.ext_getElem ?_ fun k hk hk' => ?_
  · rw [List.length_mapIdx, Text.length_lines, List.length_map, List.length_range, Block.height]
  · rw [List.getElem_mapIdx, List.getElem_map, List.getElem_range]

/-- The markers of a segment name its places. -/
theorem map_place_markers (s : Segment) (first : Nat) :
    (s.markers first).map Marker.place = s.places := by
  have hplaces : (s.markers first).map Marker.place =
      (List.range s.height).map fun k : Nat => (s.filename, s.firstLine + (k : Int)) := by
    rw [Segment.markers, List.map_map]
    rfl
  rw [hplaces, Segment.height, Segment.firstLine, Segment.places]
  cases hbody : s.body with
  | literal t => cases t <;> simp
  | interpolation name style => simp
  | directive path => simp
  | code t =>
    have hcode : s.code = (Code.parse (Block.ofText t s.line).code).toOption.getD [] := by
      rw [Segment.code, hbody]
    rw [hcode]
    dsimp only
    cases Code.parse (Block.ofText t s.line).code with
    | error e => simp [Except.toOption]
    | ok ss =>
      cases ss with
      | nil => simp [Except.toOption]
      | cons st ss => exact (mapIdx_lines _ _).symm

theorem map_place_markersFrom (first : Nat) (ss : List Segment) :
    (markersFrom first ss).map Marker.place = ss.flatMap Segment.places := by
  induction ss generalizing first with
  | nil => rfl
  | cons s ss ih =>
    have hcons : markersFrom first (s :: ss) =
        s.markers first ++ markersFrom (first + s.height) ss := rfl
    rw [hcons, List.map_append, map_place_markers, ih, List.flatMap_cons]

/-! ## Lines outside the script -/

namespace Marker

variable {markers : List Marker} {line : Int}

/-- No marker is found for a line before the first one. -/
theorem scan?_eq_none (h : ∀ m ∈ markers, line < m.line) : scan? markers line = none := by
  cases markers with
  | nil => rfl
  | cons m markers =>
    have hm : line < m.line := h m List.mem_cons_self
    rw [scan?, List.takeWhile_cons_of_neg (by simpa using hm), List.getLast?_nil]

/-- Behind the last marker it is the last one that is found. -/
theorem scan?_eq_getLast? (h : ∀ m ∈ markers, (m.line : Int) ≤ line) :
    scan? markers line = markers.getLast? := by
  rw [scan?, List.takeWhile_eq_self_iff.mpr fun m hm => decide_eq_true (h m hm)]

end Marker

/-! ## Locating -/

/-- **Every line of a script has one marker.** The markers stand for the lines 1, 2, 3 and so on,
and name the places of the segments in document order. A line below 1 is located nowhere, a line of
the script through its own marker, and every later line through the last marker. A script is
generated from whatever draft the generator holds. -/
theorem script_numbers_lines {d : Document} {sources : List (Text × Text)}
    {warnings : List IncludeWarning} {draft : Draft} {script : Script}
    (h : ((Generation.script d sources warnings).run draft).1 = .ok script) :
    script.markers.map Marker.line = List.range' 1 script.markers.length ∧
      script.markers.map Marker.place = d.segments.flatMap Segment.places ∧
      (∀ line : Int, line < 1 → script.locate line = none) ∧
      (script.markers = [] → ∀ line : Int, script.locate line = none) ∧
      (∀ (k : Nat) (m : Marker), script.markers[k]? = some m →
        script.locate (k + 1 : Nat) = some m.place) ∧
      ∀ line : Int, script.markers.length < line →
        script.locate line = script.markers.getLast?.map Marker.place := by
  have hmarkers := (laysOut_of_script h).markers_eq
  have hlines : script.markers.map Marker.line = List.range' 1 script.markers.length := by
    have hnumbers := map_line_markersFrom 1 d.segments
    rw [← hmarkers] at hnumbers
    have hlength := congrArg List.length hnumbers
    rw [List.length_map, List.length_range'] at hlength
    rw [hnumbers, hlength]
  have hsorted : script.markers.Pairwise fun m n => m.line < n.line :=
    hmarkers ▸ markersFrom_sorted 1 d.segments
  have hmem : ∀ m ∈ script.markers, 1 ≤ m.line ∧ m.line ≤ script.markers.length := by
    intro m hm
    have hline : m.line ∈ List.range' 1 script.markers.length :=
      hlines ▸ List.mem_map_of_mem hm
    have hrange := List.mem_range'_1.mp hline
    omega
  have hscan (line : Int) :
      script.locate line = (Marker.scan? script.markers line).map Marker.place := by
    rw [Script.locate, Marker.find?_eq_scan? (hsorted.imp fun hlt => hlt.le)]
  refine ⟨hlines, ?_, fun line hline => ?_, fun hnil line => ?_, fun k m hm => ?_,
    fun line hline => ?_⟩
  · rw [hmarkers, map_place_markersFrom]
  · rw [hscan, Marker.scan?_eq_none, Option.map_none]
    intro m hm
    have hlow := (hmem m hm).1
    omega
  · rw [hscan, hnil]
    rfl
  · have hline : m.line = k + 1 := by
      have hk := congrArg (·[k]?) hlines
      simp only [List.getElem?_map, hm, Option.map_some] at hk
      obtain ⟨_, hk⟩ := List.getElem?_eq_some_iff.mp hk.symm
      rw [List.getElem_range'] at hk
      omega
    rw [Script.locate, ← hline, Marker.find?_eq_of_mem hsorted (List.mem_of_getElem? hm),
      Option.map_some]
  · rw [hscan, Marker.scan?_eq_getLast?]
    intro m hm
    have hhigh := (hmem m hm).2
    omega

/-- A document with every kind of segment: an empty text and a block of comments, which take no line,
and a block of code that begins on the line below its mark. -/
theorem script_numbers_lines_of_each_kind :
    let t : Text := "t".toList
    let d : Document := ⟨t,
      [⟨.literal [], t, 1⟩, ⟨.literal "a\n".toList, t, 1⟩, ⟨.code "# b".toList, t, 2⟩,
        ⟨.code "\n x = 1\n y = 2\n".toList, t, 3⟩, ⟨.interpolation "x".toList none, t, 6⟩], []⟩
    ∃ script, generate d [] [] = .ok script ∧
      script.markers.map Marker.line = [1, 2, 3, 4, 5] ∧
      script.markers.map Marker.place = [(t, 1), (t, 4), (t, 5), (t, 6), (t, 6)] ∧
      script.locate 0 = none ∧ script.locate 3 = some (t, 5) ∧ script.locate 9 = some (t, 6) := by
  intro t d
  obtain ⟨script, hscript⟩ := exists_ok_of_isOk (x := generate d [] []) (by decide +kernel)
  obtain ⟨hlines, hplaces, hbelow, -, hwithin, hbehind⟩ := script_numbers_lines hscript
  have hplaces : script.markers.map Marker.place = [(t, 1), (t, 4), (t, 5), (t, 6), (t, 6)] :=
    hplaces.trans (by decide +kernel)
  have hlength : script.markers.length = 5 := by simpa using congrArg List.length hplaces
  refine ⟨script, hscript, by rw [hlines, hlength]; rfl, hplaces, hbelow 0 (by decide), ?_, ?_⟩
  · have hthird := congrArg (·[2]?) hplaces
    simp only [List.getElem?_map] at hthird
    obtain ⟨m, hm, hplace⟩ := Option.map_eq_some_iff.mp hthird
    exact (hwithin 2 m hm).trans (congrArg some hplace)
  · rw [hbehind 9 (by omega), ← List.getLast?_map, hplaces]
    rfl

end Stencil
