import Stencil.Proofs.Code.Misuse
import Stencil.Proofs.Scan.Spelling
import Stencil.Proofs.Script.Extent
import Stencil.Proofs.Script.Generable
import Stencil.Proofs.Script.Markers

/-!
# Places of errors

There are three ways from a line to the place where it was written: a draft goes through its markers
from the front, a script searches them by halving, and a block that cannot be read counts from its
first line. They agree. So a fault that is found only when the statements of all blocks are put
together is reported in the same place as one that is found in its block, if the block is read in no
more lines than it is high.

* `Draft.locate_eq_of_markers_eq`: drafts and scripts locate alike.
* `exists_block_of_misplaced`: the block that something misplaced stands in.
* `refusedAt_line_add`: the place of a block that is refused.
* `locations_agree`: the places of errors.
-/

namespace Stencil

open Code (Stmt)

/-! ## Drafts and scripts -/

/-- Drafts and scripts locate every line alike. -/
theorem Draft.locate_eq_of_markers_eq {draft : Draft}
    (hsorted : draft.markers.Pairwise fun m n => m.line < n.line) {script : Script}
    (hmarkers : script.markers = draft.markers) (line : Int) :
    draft.locate line = script.locate line := by
  rw [Draft.locate, Script.locate, hmarkers, Marker.find?_eq_scan? (hsorted.imp fun hlt => hlt.le)]

/-- A line of a draft was written in the file of the segment that takes it. -/
theorem Draft.locate_of_mem_layout {draft : Draft} {ss : List Segment}
    (hmarkers : draft.markers = markersFrom 1 ss) {first k : Nat} {s : Segment}
    (hs : (first, s) ∈ layout 1 ss) (hk : k < s.height) :
    draft.locate (first + k : Nat) = some (s.filename, s.firstLine + k) := by
  rw [Draft.locate, hmarkers,
    Marker.scan?_eq_of_mem (markersFrom_sorted 1 ss) (mem_markersFrom hs hk)]
  rfl

/-! ## Blocks -/

theorem Segment.readable_of_isCode {s : Segment} {t : Text} (hbody : s.body = .code t)
    (h : Code.isCode (Block.ofText t s.line).code = true) : s.Readable := by
  obtain ⟨ss, hparse⟩ := exists_ok_of_isOk h
  rw [Segment.Readable, Segment.code, hbody]
  simp [hparse, Except.toOption]

/-- Statements in which nothing stands where it must not have no fault but a constant's name. -/
theorem moduleMisuse?_ne_misplaced {ss : List Stmt} (hparam : Stmt.repeatedParamIn? ss = none)
    (hmisuse : Stmt.misuseIn? false false ss = none) (message : Text) (line : Nat) :
    Code.moduleMisuse? ss ≠ some (.misplaced message line) := by
  rw [Code.moduleMisuse?, hparam, hmisuse]
  cases Stmt.constantNameIn? ss <;> simp

/-- Something misplaced in code that has been read is found on a line of the code. -/
theorem exists_line_of_parse {b : Block} {ss : List Stmt} (hparse : Code.parse b.code = .ok ss)
    {message : Text} {line : Nat}
    (h : Code.moduleMisuse? ss = some (.misplaced message line)) :
    ∃ k, line = k + 1 ∧ (b.ReadInPlace → k < b.height) := by
  obtain ⟨read, rfl⟩ := exists_eq_mapLinesAll_of_parse hparse
  rw [Code.moduleMisuse?_mapLinesAll, Option.map_eq_some_iff] at h
  obtain ⟨misuse, -, hmisuse⟩ := h
  cases misuse with
  | constantName name => cases hmisuse
  | misplaced message' line' =>
    obtain ⟨rfl, rfl⟩ := Code.Misuse.misplaced.inj hmisuse
    obtain ⟨k, hk, hplace⟩ := exists_withinLines b le_rfl line'
    exact ⟨k, hk.trans (Nat.add_comm 1 k), hplace⟩

/-- **What is misplaced in a segment** is misplaced in the code of a block. -/
theorem Segment.exists_line_of_misplaced {s : Segment} {first : Nat} (hfirst : 1 ≤ first)
    {message : Text} {line : Nat}
    (h : Code.moduleMisuse? (s.statements first) = some (.misplaced message line)) :
    ∃ t k, s.body = .code t ∧ Code.moduleMisuse? s.code = some (.misplaced message (k + 1)) ∧
      line = first + k ∧ (s.ReadInPlace → k < s.height) := by
  rw [Segment.statements] at h
  cases hbody : s.body with
  | literal t =>
    rw [hbody] at h
    cases t with
    | nil => cases h
    | cons c t => exact absurd h (moduleMisuse?_ne_misplaced rfl rfl message line)
  | interpolation name style =>
    rw [hbody] at h
    have hmisuse : Stmt.misuseIn? false false [interpolationStmt first name style] = none := by
      cases style <;> rfl
    exact absurd h (moduleMisuse?_ne_misplaced rfl hmisuse message line)
  | directive path =>
    rw [hbody] at h
    cases h
  | code t =>
    rw [hbody, Code.moduleMisuse?_mapLinesAll, Option.map_eq_some_iff] at h
    obtain ⟨misuse, hcode, hmisuse⟩ := h
    cases misuse with
    | constantName name => cases hmisuse
    | misplaced message' line' =>
      obtain ⟨rfl, rfl⟩ := Code.Misuse.misplaced.inj hmisuse
      have hne : s.code ≠ [] := fun hnil => by
        rw [hnil] at hcode
        cases hcode
      obtain ⟨k, rfl, hk⟩ :=
        exists_line_of_parse (Segment.parse_of_code_ne_nil hbody hne) hcode
      have hline : k + 1 + (first - 1) = first + k := by omega
      refine ⟨t, k, rfl, hcode, hline, fun hplace => ?_⟩
      rw [Segment.ReadInPlace, hbody] at hplace
      rw [Segment.height_of_code hbody hne]
      exact hk hplace

/-- **Something misplaced in a draft** is misplaced in one of the blocks by itself. -/
theorem exists_block_of_misplaced {ss : List Segment} {message : Text} {line : Nat}
    (h : Code.moduleMisuse? (parts 1 ss).flatten = some (.misplaced message line)) :
    ∃ first s t k, (first, s) ∈ layout 1 ss ∧ s.body = .code t ∧
      Code.moduleMisuse? s.code = some (.misplaced message (k + 1)) ∧ line = first + k ∧
      (s.ReadInPlace → k < s.height) := by
  obtain ⟨part, hpart, hmisuse⟩ := Code.exists_moduleMisuse?_of_flatten h
  obtain ⟨⟨first, s⟩, hs, rfl⟩ := List.mem_map.mp hpart
  obtain ⟨t, k, hbody, hcode, hline, hk⟩ :=
    Segment.exists_line_of_misplaced (le_of_mem_layout hs) hmisuse
  exact ⟨first, s, t, k, hs, hbody, hcode, hline, hk⟩

/-! ## Errors -/

/-- Blocks in a file whose code begins on a line, and that are refused on line `k` of their code,
counted from 0, are reported at a place. -/
def RefusedAt (filename : Text) (line : Int) (k : Nat) (place : Option (Text × Int)) : Prop :=
  ∀ (s : Segment) (t message : Text), s.filename = filename → s.body = .code t →
    (Block.ofText t s.line).line = line →
    Code.parse (Block.ofText t s.line).code = .error (.malformed message (k + 1)) →
      ∀ draft : Draft, draft.add s = .error (draft.syntaxError message place)

/-- A block that is refused is reported by counting from the line on which its code begins. -/
theorem refusedAt_line_add {filename : Text} (hname : '\x00' ∉ filename) (line : Int) (k : Nat) :
    RefusedAt filename line k (some (filename, line + k)) := by
  rintro s t message rfl hbody rfl hparse draft
  have hplace : (Block.ofText t s.line).line + (k + 1 : Nat) - 1 =
      (Block.ofText t s.line).line + k := by omega
  rw [draft.add_of_malformed hbody hname hparse, hplace]

/-- The error of something misplaced in a draft. -/
theorem generate_of_misplaced {d : Document} {sources : List (Text × Text)} {draft : Draft}
    (hfold : d.segments.foldlM Draft.add (.empty (keptSources d sources)) = .ok draft)
    (hname : '\x00' ∉ d.name) {message : Text} {line : Nat}
    (hmisuse : Code.moduleMisuse? draft.body = some (.misplaced message line))
    (warnings : List IncludeWarning) :
    generate d sources warnings = .error (draft.syntaxError message (draft.locate line)) := by
  rw [generate_eq, hfold]
  show draft.script d.name warnings = _
  unfold Draft.script
  rw [if_neg (by simpa using hname), hmisuse]
  rfl

/-- **All three ways lead to the same place.** The segments of a document are laid out in a draft. The
draft and the script with its markers locate every line alike; on a line of a block they give the place
that the block itself would be refused at, if it could not be read on that line. Something misplaced is
misplaced in one of the blocks by itself; the error has the place that the draft gives for its line, and
if the block is read in no more lines than it is high, that is the file and the line on which this part
of the block was written. -/
theorem locations_agree {d : Document} (h : ∀ s ∈ d.segments, s.Generable)
    (sources : List (Text × Text)) :
    ∃ draft : Draft,
      d.segments.foldlM Draft.add (.empty (keptSources d sources)) = .ok draft ∧
      draft.body = (parts 1 d.segments).flatten ∧ draft.markers = markersFrom 1 d.segments ∧
      (∀ script : Script, script.markers = draft.markers →
        ∀ line : Int, draft.locate line = script.locate line) ∧
      (∀ warnings script, generate d sources warnings = .ok script →
        script.markers = draft.markers) ∧
      (∀ first s t, (first, s) ∈ layout 1 d.segments → s.body = .code t → s.code ≠ [] →
        let b := Block.ofText t s.line
        ∀ k, k < (Text.lines b.code).length →
          draft.locate (first + k : Nat) = some (s.filename, b.line + k) ∧
          RefusedAt s.filename b.line k (draft.locate (first + k : Nat))) ∧
      (∀ warnings message line, '\x00' ∉ d.name →
        Code.moduleMisuse? draft.body = some (.misplaced message line) →
          generate d sources warnings = .error (draft.syntaxError message (draft.locate line)) ∧
          ∃ first s t k, (first, s) ∈ layout 1 d.segments ∧ s.body = .code t ∧
            Code.moduleMisuse? s.code = some (.misplaced message (k + 1)) ∧ line = first + k ∧
            (s.ReadInPlace →
              draft.locate line = some (s.filename, (Block.ofText t s.line).line + k)) ∧
            (s.ReturnsPaired →
              s.ReadInPlace ∧ s.WrittenOn k ((Block.ofText t s.line).line + k))) := by
  let draft := (Draft.empty (keptSources d sources)).extend d.segments
  have hfold : d.segments.foldlM Draft.add (.empty (keptSources d sources)) = .ok draft :=
    Draft.foldlM_add_eq_ok_iff.mpr ⟨h, rfl⟩
  have hmarkers : draft.markers = markersFrom 1 d.segments := List.nil_append _
  have hbody : draft.body = (parts 1 d.segments).flatten := List.nil_append _
  refine ⟨draft, hfold, hbody, hmarkers, fun script hscript line => ?_,
    fun warnings script hscript => ?_, fun first s t hs hcode hne => ?_,
    fun warnings message line hname hmisuse => ?_⟩
  · exact Draft.locate_eq_of_markers_eq (hmarkers ▸ markersFrom_sorted 1 d.segments) hscript line
  · rw [hmarkers, (laysOut_of_generate hscript).markers_eq]
  · intro b k hk
    have hheight : k < s.height := by
      rw [Segment.height_of_code hcode hne]
      rwa [Text.length_lines] at hk
    have hlocate := Draft.locate_of_mem_layout hmarkers hs hheight
    rw [Segment.firstLine_of_code hcode] at hlocate
    have hnul : '\x00' ∉ s.filename := (h s (mem_of_mem_layout hs)).2 t hcode
    exact ⟨hlocate, hlocate ▸ refusedAt_line_add hnul b.line k⟩
  · obtain ⟨first, s, t, k, hs, hcode, hfault, rfl, hplace⟩ :=
      exists_block_of_misplaced (hbody ▸ hmisuse)
    have hline := Segment.firstLine_of_code hcode
    refine ⟨generate_of_misplaced hfold hname hmisuse warnings, first, s, t, k, hs, hcode, hfault,
      rfl, fun hread => ?_, fun hpaired => ?_⟩
    · rw [← hline]
      exact Draft.locate_of_mem_layout hmarkers hs (hplace hread)
    · have hread := hpaired.readInPlace
      exact ⟨hread, hline ▸ Segment.writtenOn_firstLine hpaired (hplace hread)⟩

/-- A `return` on the second line of a block that begins on the line below its mark. -/
theorem locations_agree_of_return :
    let t : Text := "\n x = 1\n return\n".toList
    let s : Segment := ⟨.code t, "t".toList, 2⟩
    let d : Document := ⟨"t".toList, [⟨.literal "a\n".toList, "t".toList, 1⟩, s], []⟩
    (∀ s ∈ d.segments, s.Generable) ∧
      ∃ draft : Draft, draft.locate 3 = some ("t".toList, 4) ∧
        generate d [] [] =
          .error (draft.syntaxError "'return' outside function".toList (some ("t".toList, 4))) := by
  intro t s d
  have hgenerable : ∀ s ∈ d.segments, s.Generable := by
    refine List.forall_mem_cons.mpr ⟨⟨trivial, by simp⟩, List.forall_mem_singleton.mpr ⟨?_, ?_⟩⟩
    · exact Segment.readable_of_isCode rfl (by decide +kernel)
    · exact fun _ _ => by decide
  obtain ⟨draft, -, hbody, -, -, -, hblocks, hmisuse⟩ := locations_agree hgenerable []
  have hmem : (2, s) ∈ layout 1 d.segments := List.mem_cons_of_mem _ List.mem_cons_self
  have hblock : Block.ofText t s.line = ⟨"x = 1\nreturn\n".toList, 3⟩ := by decide +kernel
  have hplace : draft.locate 3 = some ("t".toList, 4) := by
    have hline := (hblocks 2 s t hmem rfl (by decide +kernel) 1 (by rw [hblock]; decide)).1
    rw [hblock] at hline
    exact hline
  obtain ⟨herror, -⟩ := hmisuse [] "'return' outside function".toList 3 (by decide)
    (by rw [hbody]; decide +kernel)
  exact ⟨hgenerable, draft, hplace, herror.trans (by rw [Int.cast_ofNat_Int, hplace])⟩

/-- **A carriage return by itself** puts a `return` out of place. The block stands on the first line
of its template, but it is read in three lines and has one, so that its last statement is located where
the interpolation on the second line of the template was written. -/
theorem not_locations_agree_of_carriage_return :
    let t : Text := "<?py pass\r\rreturn ?>\n{$x}".toList
    ∃ d, scanTemplate t "t".toList = .ok d ∧ (∀ s ∈ d.segments, s.Generable) ∧
      d.segments.map (fun s => (s.body, s.line)) =
        [(.code " pass\r\rreturn ".toList, 1), (.literal ['\n'], 1),
          (.interpolation "x".toList none, 2)] ∧
      generate d [] [] = .error (.syntaxError (.new .codeSyntax "'return' outside function".toList
        (some 2) (some "t".toList) (some t) none none)) := by
  intro t
  let s : Segment := ⟨.code " pass\r\rreturn ".toList, "t".toList, 1⟩
  let d : Document := ⟨"t".toList, [s, ⟨.literal ['\n'], "t".toList, 1⟩,
    ⟨.interpolation "x".toList none, "t".toList, 2⟩], t⟩
  have hscan : scanTemplate t "t".toList = .ok d := eq_ok_of_toOption (by decide +kernel)
  have hcode : s.Generable :=
    ⟨Segment.readable_of_isCode rfl (by decide +kernel), fun _ _ => by decide⟩
  have hgenerable : ∀ s ∈ d.segments, s.Generable :=
    List.forall_mem_cons.mpr ⟨hcode, List.forall_mem_cons.mpr ⟨⟨trivial, by simp⟩,
      List.forall_mem_singleton.mpr ⟨trivial, by simp⟩⟩⟩
  let draft := (Draft.empty (keptSources d [])).extend d.segments
  have hfold : d.segments.foldlM Draft.add (.empty (keptSources d [])) = .ok draft :=
    Draft.foldlM_add_eq_ok_iff.mpr ⟨hgenerable, rfl⟩
  have hmisuse : Code.moduleMisuse? draft.body =
      some (.misplaced "'return' outside function".toList 3) := by decide +kernel
  have hlocate : draft.locate 3 = some ("t".toList, 2) := by decide +kernel
  have herror := generate_of_misplaced hfold (by decide) hmisuse []
  exact ⟨d, hscan, hgenerable, rfl, herror.trans (by rw [Int.cast_ofNat_Int, hlocate]; rfl)⟩

end Stencil
