import Stencil.Proofs.Code.Joined
import Stencil.Proofs.Diagnostic.Caret
import Stencil.Proofs.Script.Compile
import Stencil.Proofs.Script.Markers
import Stencil.Proofs.Script.Ranges

/-!
# Listings

A listing is the code of a script, statement by statement, each below a comment with the place that
it comes from. It can be read as code, and then says what the script does, as long as no name of a
file ends the line of its comment.

* `Script.LaysOut.exists_marker`: statements are located.
* `listing_eq_commented`: the rows of a listing.
* `listing_is_faithful`: what a listing says.
-/

namespace Stencil

open Code (ParsesAs PlainComment Stmt)

/-! ## Places of statements -/

theorem Stmt.mem_nestedAll {st : Stmt} {ss : List Stmt} (h : st ∈ ss) : st ∈ Stmt.nestedAll ss := by
  induction ss with
  | nil => cases h
  | cons s ss ih =>
    rw [Stmt.nestedAll, List.mem_append]
    rcases List.mem_cons.mp h with rfl | h
    · exact .inl (by cases st <;> simp [Stmt.nested])
    · exact .inr (ih h)

/-- A line that does not stand above the first marker is located through one of the markers. -/
theorem Marker.exists_find? {markers : List Marker}
    (hsorted : markers.Pairwise fun m n => m.line < n.line) {line : Int}
    (hline : ∃ m ∈ markers.head?, (m.line : Int) ≤ line) : ∃ m ∈ markers, find? markers line = some m := by
  obtain ⟨first, hhead, hle⟩ := hline
  obtain ⟨markers, rfl⟩ := List.head?_eq_some_iff.mp hhead
  rw [find?_eq_scan? (hsorted.imp fun hlt => hlt.le), scan?,
    List.takeWhile_cons_of_pos (by simpa using hle)]
  refine ⟨_, ?_, List.getLast?_eq_some_getLast (List.cons_ne_nil _ _)⟩
  have hmem := List.getLast_mem (List.cons_ne_nil first
    (markers.takeWhile fun m => decide ((m.line : Int) ≤ line)))
  rcases List.mem_cons.mp hmem with heq | hmem
  · rw [heq]
    exact List.mem_cons_self
  · exact List.mem_cons_of_mem _ ((List.takeWhile_prefix _).subset hmem)

/-- A segment with a statement takes a line. -/
theorem Segment.height_pos {s : Segment} {first : Nat} {st : Stmt} (hst : st ∈ s.statements first) :
    0 < s.height := by
  rw [Segment.statements] at hst
  rw [Segment.height]
  split at hst
  · cases hst
  · exact Nat.one_pos
  · exact Nat.one_pos
  · split
    · rename_i hempty
      rw [List.isEmpty_iff.mp hempty] at hst
      cases hst
    · exact Nat.succ_pos _
  · cases hst

/-- **A statement of a script is located**, through a marker of the script. -/
theorem Script.LaysOut.exists_marker {script : Script} {d : Document} (h : script.LaysOut d)
    {st : Stmt} (hst : st ∈ script.body) :
    ∃ m ∈ script.markers, script.locate st.span.first = some m.place := by
  rw [h.body_eq] at hst
  obtain ⟨part, hpart, hst⟩ := List.mem_flatten.mp hst
  obtain ⟨⟨first, s⟩, hs, rfl⟩ := List.mem_map.mp hpart
  have hfirst := le_of_mem_layout hs
  obtain ⟨i, -, hspan, -⟩ := Segment.exists_span_of_nested hfirst (Stmt.mem_nestedAll hst)
  have hlines := map_line_markersFrom 1 d.segments
  have hsorted := markersFrom_sorted 1 d.segments
  have hmem := mem_markersFrom hs (Segment.height_pos hst)
  rw [← h.markers_eq] at hlines hsorted hmem
  cases hmarkers : script.markers with
  | nil =>
    rw [hmarkers] at hmem
    cases hmem
  | cons m markers =>
    have hone : m.line = 1 := by
      rw [hmarkers, List.map_cons] at hlines
      cases hheight : totalHeight d.segments with
      | zero =>
        rw [hheight] at hlines
        cases hlines
      | succ n =>
        rw [hheight, List.range'_succ] at hlines
        exact (List.cons.inj hlines).1
    have hhead : ∃ m ∈ script.markers.head?, (m.line : Int) ≤ st.span.first :=
      ⟨m, by rw [hmarkers]; rfl, by omega⟩
    obtain ⟨found, hfound, hfind⟩ := Marker.exists_find? hsorted hhead
    exact ⟨found, hmarkers ▸ hfound, by rw [Script.locate, hfind]; rfl⟩

/-! ## Listings -/

namespace Script

/-- The comment that names a place stays on its line if the name of the file does. -/
theorem exists_placeComment {place : Text × Int} (h : PlainComment place.1) :
    ∃ comment, placeComment place = '#' :: comment ∧ PlainComment comment := by
  have hnewline := Text.not_mem_ofInt (c := '\n') (by decide) (by decide) place.2
  have hcarriage := Text.not_mem_ofInt (c := '\r') (by decide) (by decide) place.2
  have hnul := Text.not_mem_ofInt (c := '\x00') (by decide) (by decide) place.2
  refine ⟨" line ".toList ++ Text.ofInt place.2 ++ " \"".toList ++ place.1 ++ ['"'], rfl, ?_, ?_, ?_⟩
  · simp [hnewline, h.newline]
  · simp [hcarriage, h.carriage]
  · simp [hnul, h.nul]

/-- What a listing says about the place of a statement, behind the sign of the comment. -/
def comment (script : Script) (st : Stmt) : Text :=
  (((script.locate st.span.first).map placeComment).getD []).tail

theorem comment_of_locate {script : Script} {st : Stmt} {place : Text × Int}
    (h : script.locate st.span.first = some place) (hplace : PlainComment place.1) :
    PlainComment (script.comment st) ∧ placeComment place = '#' :: script.comment st := by
  obtain ⟨comment, heq, hplain⟩ := exists_placeComment hplace
  have hcomment : script.comment st = comment := by
    rw [Script.comment, h, Option.map_some, Option.getD_some, heq, List.tail_cons]
  rw [hcomment]
  exact ⟨hplain, heq⟩

/-- A listing is made of the statements below their comments. -/
theorem listing_eq_commented {script : Script}
    (h : ∀ st ∈ script.body, ∃ place, script.locate st.span.first = some place ∧
      PlainComment place.1) :
    script.listing = Code.commented script.comment Stmt.text script.body := by
  rw [listing, Code.commented]
  congr 1
  refine List.flatMap_congr fun st hst => ?_
  obtain ⟨place, hlocate, hplace⟩ := h st hst
  rw [listingRows, hlocate, Option.map_some, (comment_of_locate hlocate hplace).2]
  rfl

end Script

/-- **A listing is faithful to its script.** Read as code, it is the statements of the script in
their order, if each of them can be read as it is written and no name of a file ends the line of its
comment. Every statement is located through a marker of the script, and its rows stand directly below
the one comment that names this place. -/
theorem listing_is_faithful {env : Environment} {tree : FileTree} {r : CompileRequest}
    {script : Script} (h : (env.compile tree r).result = .ok script)
    (hnames : ∀ m ∈ script.markers, PlainComment m.filename)
    (hread : ∀ st ∈ script.body, ParsesAs st.text [st]) :
    ParsesAs script.listing script.body ∧
      (∀ st ∈ script.body, ∃ m ∈ script.markers, script.locate st.span.first = some m.place) ∧
      (script.body ≠ [] → Text.lines script.listing = script.body.flatMap fun st =>
        ((script.locate st.span.first).map Script.placeComment).toList ++ Text.lines st.text) := by
  obtain ⟨d, -, hlaid⟩ := exists_laysOut_of_compile h
  have hlocate : ∀ st ∈ script.body, ∃ place, script.locate st.span.first = some place ∧
      PlainComment place.1 := by
    intro st hst
    obtain ⟨m, hm, hlocate⟩ := hlaid.exists_marker hst
    exact ⟨m.place, hlocate, hnames m hm⟩
  have hplain : ∀ st ∈ script.body, PlainComment (script.comment st) := by
    intro st hst
    obtain ⟨place, hplace, hname⟩ := hlocate st hst
    exact (Script.comment_of_locate hplace hname).1
  rw [Script.listing_eq_commented hlocate]
  refine ⟨?_, fun st hst => hlaid.exists_marker hst, fun hne => ?_⟩
  · have hlisting := Code.parsesAs_commented hplain
      (fun st hst => ⟨hread st hst, List.cons_ne_nil st []⟩)
    rwa [List.flatMap_singleton'] at hlisting
  · rw [Code.lines_commented hplain hne]
    refine List.flatMap_congr fun st hst => ?_
    obtain ⟨place, hplace, hname⟩ := hlocate st hst
    rw [hplace, Option.map_some, (Script.comment_of_locate hplace hname).2]
    rfl

/-- A statement is read as it is written if the tokens of its text are. -/
theorem parsesAs_of_tokens {s : Stmt} {t : Text} {lexed : Code.Lexed} {rest : Code.Cursor}
    (htext : s.text = t) (hnul : '\x00' ∉ t) (htokens : Code.tokens t = lexed)
    (hread : Code.Parser.statements (Code.Parser.statement Code.Parser.rowLength Code.blockDepth)
      (lexed.tokens.length + 2) ⟨lexed, 1⟩ = .ok ([s.mapLines fun _ => 1], rest)) :
    ParsesAs s.text [s] := by
  rw [htext]
  refine ⟨_, Code.parse_of_tokens hnul htokens hread, ?_⟩
  simp [Code.SameCode, Stmt.mapLinesAll, Stmt.mapLines_mapLines, Function.comp_def]

set_option maxRecDepth 2000 in
/-- A text in front of the value of a variable. -/
theorem listing_is_faithful_of_greeting :
    let r : CompileRequest := ⟨some "Hi \x7b$name\x7d".toList, none, none, none⟩
    ∃ script, (Environment.standard.compile ⟨[], []⟩ r).result = .ok script ∧
      ParsesAs script.listing script.body ∧
      Text.lines script.listing = ["# line 1 \"<string>\"", "_write('Hi ')",
        "# line 1 \"<string>\"", "_write(_escape(None, name))"].map String.toList := by
  intro r
  let title : Text := "<string>".toList
  let hi : Stmt := literalStmt 1 "Hi ".toList
  let name : Stmt := interpolationStmt 2 "name".toList none
  have hsegs : (Environment.standard.resolved? ⟨[], []⟩ r).map Document.segments =
      some [⟨.literal "Hi ".toList, title, 1⟩, ⟨.interpolation "name".toList none, title, 1⟩] := by
    decide +kernel
  obtain ⟨script, d, hscript, -, hlaid, hsegs⟩ := exists_laysOut_of_isOk (by decide +kernel) hsegs
  have hbody : script.body = [hi, name] := by
    rw [hlaid.body_eq, hsegs]
    rfl
  have hmarkers : script.markers = [⟨1, title, 1⟩, ⟨2, title, 1⟩] := by
    rw [hlaid.markers_eq, hsegs]
    rfl
  have hhi : ParsesAs hi.text [hi] := by
    have htokens : Code.tokens "_write('Hi ')".toList =
        ⟨[⟨.name "_write".toList, 1, 1, 0⟩, ⟨.symbol ['('], 1, 1, 1⟩,
          ⟨.string ⟨false, false, false, "Hi ".toList⟩, 1, 1, 1⟩, ⟨.symbol [')'], 1, 1, 0⟩,
          ⟨.newline, 1, 1, 0⟩, ⟨.finish, 1, 1, 0⟩], none⟩ := by decide +kernel
    exact parsesAs_of_tokens (by decide +kernel) (by decide) htokens (by with_unfolding_all rfl)
  have hname : ParsesAs name.text [name] := by
    have htokens : Code.tokens "_write(_escape(None, name))".toList =
        ⟨[⟨.name "_write".toList, 1, 1, 0⟩, ⟨.symbol ['('], 1, 1, 1⟩,
          ⟨.name "_escape".toList, 1, 1, 1⟩, ⟨.symbol ['('], 1, 1, 2⟩,
          ⟨.keyword "None".toList, 1, 1, 2⟩, ⟨.symbol [','], 1, 1, 2⟩,
          ⟨.name "name".toList, 1, 1, 2⟩, ⟨.symbol [')'], 1, 1, 1⟩, ⟨.symbol [')'], 1, 1, 0⟩,
          ⟨.newline, 1, 1, 0⟩, ⟨.finish, 1, 1, 0⟩], none⟩ := by decide +kernel
    exact parsesAs_of_tokens (by decide +kernel) (by decide) htokens (by with_unfolding_all rfl)
  have htitle : ∀ m ∈ script.markers, PlainComment m.filename := by
    have hplain : PlainComment title := ⟨by decide, by decide, by decide⟩
    rw [hmarkers]
    exact List.forall_mem_cons.mpr ⟨hplain, List.forall_mem_singleton.mpr hplain⟩
  have hread : ∀ st ∈ script.body, ParsesAs st.text [st] := by
    rw [hbody]
    exact List.forall_mem_cons.mpr ⟨hhi, List.forall_mem_singleton.mpr hname⟩
  obtain ⟨hparses, -, hlines⟩ := listing_is_faithful hscript htitle hread
  refine ⟨script, hscript, hparses, (hlines (by simp [hbody])).trans ?_⟩
  have hlocate (line : Int) : script.locate line =
      (Marker.find? [⟨1, title, 1⟩, ⟨2, title, 1⟩] line).map Marker.place := by
    rw [Script.locate, hmarkers]
  simp only [hbody, hlocate]
  decide +kernel

/-- **A newline in a name** ends the comment that names it. What is left of the name is then read as
code, which here begins a string that nothing ends. -/
theorem not_listing_is_faithful_of_newline :
    let r : CompileRequest := ⟨some ['x'], none, none, some "a\nb".toList⟩
    ∃ script, (Environment.standard.compile ⟨[], []⟩ r).result = .ok script ∧
      (∀ st ∈ script.body, ParsesAs st.text [st]) ∧
      script.listing = "# line 1 \"a\nb\"\n_write('x')".toList ∧
      ¬ ParsesAs script.listing script.body := by
  intro r
  let name : Text := "a\nb".toList
  have hsegs : (Environment.standard.resolved? ⟨[], []⟩ r).map Document.segments =
      some [⟨.literal ['x'], name, 1⟩] := by decide +kernel
  obtain ⟨script, d, hscript, -, hlaid, hsegs⟩ := exists_laysOut_of_isOk (by decide +kernel) hsegs
  have hbody : script.body = [literalStmt 1 ['x']] := by
    rw [hlaid.body_eq, hsegs]
    rfl
  have hmarkers : script.markers = [⟨1, name, 1⟩] := by
    rw [hlaid.markers_eq, hsegs]
    rfl
  have htokens : Code.tokens "_write('x')".toList =
      ⟨[⟨.name "_write".toList, 1, 1, 0⟩, ⟨.symbol ['('], 1, 1, 1⟩,
        ⟨.string ⟨false, false, false, ['x']⟩, 1, 1, 1⟩, ⟨.symbol [')'], 1, 1, 0⟩,
        ⟨.newline, 1, 1, 0⟩, ⟨.finish, 1, 1, 0⟩], none⟩ := by decide +kernel
  have hread : ParsesAs (literalStmt 1 ['x']).text [literalStmt 1 ['x']] :=
    parsesAs_of_tokens (by decide +kernel) (by decide) htokens (by with_unfolding_all rfl)
  have hlisting : script.listing = "# line 1 \"a\nb\"\n_write('x')".toList := by
    have hlocate (line : Int) :
        script.locate line = (Marker.find? [⟨1, name, 1⟩] line).map Marker.place := by
      rw [Script.locate, hmarkers]
    rw [Script.listing, hbody, List.flatMap_singleton, Script.listingRows, hlocate]
    decide +kernel
  refine ⟨script, hscript, ?_, hlisting, ?_⟩
  · rw [hbody]
    exact List.forall_mem_singleton.mpr hread
  · rintro ⟨ss, hparse, -⟩
    have hrefused : (Code.parse "# line 1 \"a\nb\"\n_write('x')".toList).isOk = false := by
      decide +kernel
    rw [← hlisting, hparse] at hrefused
    cases hrefused

end Stencil
