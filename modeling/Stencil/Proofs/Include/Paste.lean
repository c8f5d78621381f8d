import Mathlib
import Stencil.Proofs.Include.Cycle
import Stencil.Proofs.Include.Missing
import Stencil.Proofs.Scan.Compose
import Stencil.Proofs.Script.Alike

/-!
# Included files as pasted text

An include directive does what pasting the text of its file would do. The template around it is read
as it would be around the text, the segments of the file stand where those of the text would stand,
and they differ from these in their places alone, which no statement of the script shows.

* `include_is_pasted`: a directive against the text of its file.
-/

namespace Stencil

/-! ## Documents put together -/

/-- Pieces make segments that are alike wherever they stand. -/
theorem alike_segmentsFrom {filename filename' : Text}
    (hnamed : '\x00' ∈ filename ↔ '\x00' ∈ filename') (line line' : Nat) (ps : List Piece) :
    List.Forall₂ Segment.Alike (segmentsFrom filename line ps)
      (segmentsFrom filename' line' ps) := by
  induction ps generalizing line line' with
  | nil => exact .nil
  | cons p ps ih => exact .cons ⟨rfl, hnamed⟩ (ih _ _)

/-- The document is empty or ends in a segment that is no literal. -/
def Document.EndsWhole (d : Document) : Prop :=
  ∀ s ∈ d.segments.getLast?, ∀ t, s.body ≠ .literal t

theorem endWhole_of_endsWhole {filename t : Text} {ps : List Piece}
    (h : Document.EndsWhole ⟨filename, segmentsFrom filename 1 ps, t⟩) : EndWhole ps := by
  rintro p hp ⟨u, rfl⟩
  have hbodies := congrArg List.getLast? (map_body_segmentsFrom filename 1 ps)
  rw [List.getLast?_map, List.getLast?_map, Option.mem_def.mp hp] at hbodies
  obtain ⟨s, hs, hbody⟩ := Option.map_eq_some_iff.mp hbodies
  exact h s hs u hbody

/-! ## Splicing segments that are alike -/

/-- What is spliced differs in places alone. -/
structure Spliced.Alike (x x' : Spliced) : Prop where
  segments : List.Forall₂ Segment.Alike x.segments x'.segments
  fault_eq : x.fault = x'.fault

theorem Spliced.Alike.refl (x : Spliced) : x.Alike x := ⟨Segment.forall₂_alike_refl _, rfl⟩

theorem Spliced.Alike.append {x x' y y' : Spliced} (h : x.Alike x') (hy : y.Alike y') :
    (x.append y).Alike (x'.append y') := by
  obtain ⟨hsegments, hfault⟩ := h
  unfold Spliced.append
  cases hx : x.fault with
  | some fault =>
    rw [← hfault, hx]
    exact ⟨hsegments, hfault⟩
  | none =>
    rw [← hfault, hx]
    exact ⟨List.rel_append hsegments hy.segments, hy.fault_eq⟩

section Splice

variable {tree : FileTree} {loader : Loader}

theorem spliceSegment_alike {s s' : Segment} (h : s.Alike s') (inner : Splicer)
    (chain : List Location) (name : Text) :
    (spliceSegment tree loader inner chain name s).Alike
      (spliceSegment tree loader inner chain name s') := by
  have hpath := h.path?_eq
  have hleft (path : Text) (code : ErrorCode) : (Spliced.leaveOut name s.line path code).Alike
      (.leaveOut name s'.line path code) := ⟨.cons ⟨rfl, Iff.rfl⟩ .nil, rfl⟩
  cases meets tree loader chain s with
  | kept hs =>
    rw [spliceSegment_of_kept hs, spliceSegment_of_kept (hpath ▸ hs)]
    exact ⟨.cons h .nil, rfl⟩
  | missing hs hload =>
    rw [spliceSegment_of_missing hs hload, spliceSegment_of_missing (hpath ▸ hs) hload]
    exact hleft _ _
  | cyclic hs hfile hmem =>
    rw [spliceSegment_of_cyclic hs hfile hmem, spliceSegment_of_cyclic (hpath ▸ hs) hfile hmem]
    exact hleft _ _
  | unloaded hs hload hfound =>
    rw [spliceSegment_of_unloaded hs hload hfound,
      spliceSegment_of_unloaded (hpath ▸ hs) hload hfound]
    exact .refl _
  | unnamed hs hload hreal =>
    rw [spliceSegment_of_unnamed hs hload hreal, spliceSegment_of_unnamed (hpath ▸ hs) hload hreal]
    exact .refl _
  | unscanned hs hfile hnot hscan =>
    rw [spliceSegment_of_unscanned hs hfile hnot hscan,
      spliceSegment_of_unscanned (hpath ▸ hs) hfile hnot hscan]
    exact .refl _
  | scanned hs hfile hnot hscan =>
    rw [spliceSegment_of_scanned hs hfile hnot hscan,
      spliceSegment_of_scanned (hpath ▸ hs) hfile hnot hscan]
    exact .refl _

theorem splice_alike {ss ss' : List Segment} (h : List.Forall₂ Segment.Alike ss ss') (depth : Nat)
    (chain : List Location) (name : Text) :
    (splice tree loader (depth + 1) chain name ss).Alike
      (splice tree loader (depth + 1) chain name ss') := by
  induction h with
  | nil => exact .refl _
  | cons hs _ ih =>
    rw [splice_cons, splice_cons]
    exact (spliceSegment_alike hs _ _ _).append ih

/-- A directive whose file has no directives makes way for the segments of the file. -/
theorem spliceSegment_of_flat {s : Segment} {path : Text} {file : Loaded} {identity : Location}
    {child : Document} (hs : s.path? = some path) (hfile : loader.Finds tree path file identity)
    (hscan : scanTemplate file.text file.filename = .ok child) (hflat : child.includes = [])
    (depth : Nat) (name : Text) :
    (spliceSegment tree loader (splice tree loader (depth + 1)) [] name s).segments =
        child.segments ∧
      (spliceSegment tree loader (splice tree loader (depth + 1)) [] name s).fault = none := by
  rw [spliceSegment_of_scanned hs hfile List.not_mem_nil hscan,
    splice_of_kept tree loader depth _ _ (List.filterMap_eq_nil_iff.mp hflat)]
  exact ⟨rfl, rfl⟩

end Splice

/-! ## Compilations -/

/-- The statements that a compilation leads to, or why there are none, wherever that may be. -/
def Compilation.statements (c : Compilation) : Except Failure (List Code.Stmt) :=
  (c.result.map Script.body).mapError Failure.unplaced

/-- Where one compilation gives the statements of another that succeeds, it succeeds. -/
theorem Compilation.exists_of_statements_eq {c c' : Compilation} (h : c.statements = c'.statements)
    {script' : Script} (hscript' : c'.result = .ok script') :
    ∃ script, c.result = .ok script ∧ script.body = script'.body := by
  unfold statements at h
  rw [hscript'] at h
  cases hscript : c.result with
  | error failure =>
    rw [hscript] at h
    cases h
  | ok script =>
    rw [hscript] at h
    exact ⟨script, rfl, Except.ok.inj h⟩

namespace Environment

variable {env : Environment} {tree : FileTree} {r r' : CompileRequest}

/-- A text that is scanned into `d` is compiled into the statements of what is spliced. -/
theorem statements_compile {t name : Text} {d : Document}
    (hread : env.readSource tree r = .ok ⟨t, name, none⟩) (hscan : scanTemplate t name = .ok d) :
    let loader := env.loaderFor tree r.includePath
    let x := splice tree loader (loader.size + 1) [] d.name d.segments
    (env.compile tree r).statements =
      match x.fault with
      | some fault => .error (Failure.ofResolve fault).unplaced
      | none =>
        (Script.statements (generate (x.resolved d).document (x.resolved d).sources
          (x.resolved d).warnings)).mapError .ofGenerate := by
  intro loader x
  have hresolve : (resolve tree loader d none).result = x.result d := result_of_originChain rfl
  unfold Compilation.statements
  rw [compile_eq hread hscan, hresolve]
  unfold Spliced.result
  cases x.fault with
  | some fault => rfl
  | none =>
    dsimp only
    unfold Script.statements
    cases generate (x.resolved d).document (x.resolved d).sources (x.resolved d).warnings with
    | error e => exact congrArg Except.error (Failure.unplaced_ofGenerate e)
    | ok script => rfl

/-- Templates that are spliced alike are compiled into the same statements. -/
theorem statements_compile_alike {t t' name : Text} {d d' : Document}
    (hread : env.readSource tree r = .ok ⟨t, name, none⟩) (hscan : scanTemplate t name = .ok d)
    (hread' : env.readSource tree r' = .ok ⟨t', name, none⟩)
    (hscan' : scanTemplate t' name = .ok d') (hpath : r.includePath = r'.includePath)
    (h :
      let loader := env.loaderFor tree r.includePath
      (splice tree loader (loader.size + 1) [] name d.segments).Alike
        (splice tree loader (loader.size + 1) [] name d'.segments)) :
    (env.compile tree r).statements = (env.compile tree r').statements := by
  obtain ⟨hname, -⟩ := filename_of_scanTemplate hscan
  obtain ⟨hname', -⟩ := filename_of_scanTemplate hscan'
  rw [statements_compile hread hscan, statements_compile hread' hscan', ← hpath, hname, hname']
  dsimp only at h ⊢
  rw [← h.fault_eq]
  split
  · rfl
  · refine congrArg (Except.mapError Failure.ofGenerate) (generate_alike ?_ ?_ _ _ _ _)
    · exact hname.trans hname'.symm
    · exact h.segments

/-- The name of a file that is found when directories are searched has no NUL, and the loader counts
the file. -/
theorem named_of_finds {path : Text} {file : Loaded} {identity : Location}
    (hfile : (env.loaderFor tree r.includePath).Finds tree path file identity)
    (hown : r.includePath = none → env.loader ≠ none →
      '\x00' ∉ file.filename ∧ 0 < (env.loaderFor tree r.includePath).size) :
    '\x00' ∉ file.filename ∧ 0 < (env.loaderFor tree r.includePath).size := by
  have hsearch {search : SearchPath} (hfile : (search.loader tree).Finds tree path file identity) :
      '\x00' ∉ file.filename ∧ 0 < (search.loader tree).size := by
    obtain ⟨bytes, hbytes⟩ := SearchPath.exists_readBytes_of_load hfile.load_eq
    obtain ⟨-, hmem⟩ := FileTree.readBytes_place hbytes hfile.identity_eq
    refine ⟨fun hnul => ?_, ?_⟩
    · unfold FileTree.readBytes at hbytes
      simp [hnul] at hbytes
    · have hpos := List.length_pos_of_mem hmem
      rwa [List.length_map] at hpos
  unfold loaderFor at hfile hown ⊢
  cases hpath : r.includePath with
  | some path =>
    rw [hpath] at hfile
    exact hsearch hfile
  | none =>
    cases hloader : env.loader with
    | some make =>
      rw [hpath, hloader] at hown
      exact hown rfl nofun
    | none =>
      rw [hpath, hloader] at hfile
      exact hsearch hfile

end Environment

/-! ## A directive and the text of its file -/

/-- The directive that includes a file. -/
def includeDirective (path : Text) : Text := "<?include ".toList ++ path ++ "?>".toList

/-- A directive without `?>` in its path is read as what it is. -/
theorem pieces_includeDirective {path : Text} (h : ¬ "?>".toList <:+: path) :
    pieces (includeDirective path) = .ok [.directive (' ' :: path)] :=
  pieces_construct (construct_directive h) (by rw [pieces])

theorem endWhole_directive {inner : Text} : EndWhole [.directive inner] := by
  rintro p hp ⟨u, rfl⟩
  cases hp

/-- Without directives in a file there are none among its pieces, wherever these stand. -/
theorem path?_eq_none_of_includes {ps : List Piece} {filename filename' t : Text} {line : Nat}
    (h : Document.includes ⟨filename, segmentsFrom filename line ps, t⟩ = []) (line' : Nat) :
    ∀ s ∈ segmentsFrom filename' line' ps, s.path? = none := by
  let isKept (b : Body) : Prop := Segment.path? ⟨b, [], 0⟩ = none
  have hkept : ∀ s ∈ segmentsFrom filename line ps, isKept s.body :=
    List.filterMap_eq_nil_iff.mp h
  exact forall_body_segmentsFrom_iff (P := isKept).mpr (forall_body_segmentsFrom_iff.mp hkept)

/-- What is spliced for a document with a directive in the middle, against what is spliced for one
with the pieces of the file of the directive there. -/
theorem splice_directive_alike {tree : FileTree} {loader : Loader} {path title : Text}
    {file : Loaded} {identity : Location} {ps qs cs : List Piece}
    (hfile : loader.Finds tree path file identity) (hcs : pieces file.text = .ok cs)
    (hflat : Document.includes
      ⟨file.filename, segmentsFrom file.filename 1 cs, file.text⟩ = [])
    (hnamed : '\x00' ∈ file.filename ↔ '\x00' ∈ title) (hpath : Text.strip path = path)
    (depth : Nat) :
    (splice tree loader (depth + 2) [] title
        (segmentsFrom title 1 (ps ++ .directive (' ' :: path) :: qs))).Alike
      (splice tree loader (depth + 2) [] title (segmentsFrom title 1 (ps ++ (cs ++ qs)))) := by
  have hbody : (Piece.directive (' ' :: path)).body = .directive path := by
    rw [Piece.body, strip_cons_blank, hpath]
  rw [segmentsFrom_append, segmentsFrom_append, segmentsFrom_append, segmentsFrom, hbody,
    splice_append_cons, splice_append, splice_append]
  generalize 1 + (ps.flatMap Piece.spelling).count '\n' = line
  refine (Spliced.Alike.refl _).append (.append ?_ (splice_alike ?_ _ _ _))
  · obtain ⟨hsegments, hfault⟩ := spliceSegment_of_flat
      (s := ⟨.directive path, title, line⟩) rfl hfile
      (scanTemplate_of_pieces hcs file.filename) hflat depth title
    refine ⟨?_, ?_⟩
    · rw [hsegments, splice_of_kept _ _ _ _ _ (path?_eq_none_of_includes hflat line)]
      exact alike_segmentsFrom hnamed 1 line cs
    · rw [hfault, splice_of_kept _ _ _ _ _ (path?_eq_none_of_includes hflat line)]
  · exact alike_segmentsFrom Iff.rfl _ _ qs

/-- **An include directive is its file pasted.** Take a directive between two texts, of which the
first one ends in a construct or is empty, and let its path lead to a file that does so too and has
no directives. Compiling this template gives the statements that compiling it with the text of the
file in place of the directive gives, or it fails for the same reason; so both scripts do the same
to every machine, whatever its variables are. -/
theorem include_is_pasted {env : Environment} {tree : FileTree} {r : CompileRequest}
    {before after path : Text} {name name' : Text} {file : Loaded} {identity : Location}
    {first last child : Document} (hsource : r.sourceFile = none)
    (hreported : ∀ name ∈ r.reportedName, '\x00' ∉ name)
    (hfirst : scanTemplate before name = .ok first) (hfirstEnd : first.EndsWhole)
    (hlast : scanTemplate after name' = .ok last)
    (hchild : scanTemplate file.text file.filename = .ok child) (hchildEnd : child.EndsWhole)
    (hflat : child.includes = []) (hclosed : ¬ "?>".toList <:+: path)
    (hstripped : Text.strip path = path)
    (hfinds : (env.loaderFor tree r.includePath).Finds tree path file identity)
    (hown : r.includePath = none → env.loader ≠ none →
      '\x00' ∉ file.filename ∧ 0 < (env.loaderFor tree r.includePath).size) :
    let compiled (t : Text) := env.compile tree { r with source := some t }
    let included := compiled (before ++ includeDirective path ++ after)
    let pasted := compiled (before ++ file.text ++ after)
    included.statements = pasted.statements ∧
      ∀ script script', included.result = .ok script → pasted.result = .ok script' →
        ∀ s m, Executor.standard s script m = Executor.standard s script' m := by
  intro compiled included pasted
  let title := Environment.reportedOr r.reportedName "<string>".toList
  obtain ⟨ps, hps, rfl⟩ := exists_pieces_of_scanTemplate hfirst
  obtain ⟨qs, hqs, rfl⟩ := exists_pieces_of_scanTemplate hlast
  obtain ⟨cs, hcs, rfl⟩ := exists_pieces_of_scanTemplate hchild
  have hread (t : Text) : env.readSource tree { r with source := some t } =
      .ok ⟨t, title, none⟩ := Environment.readSource_of_source rfl hsource
  have hdirective : pieces (before ++ includeDirective path ++ after) =
      .ok (ps ++ .directive (' ' :: path) :: qs) := by
    have hrest := pieces_append (pieces_includeDirective hclosed) endWhole_directive hqs
    rw [List.append_assoc]
    exact pieces_append hps (endWhole_of_endsWhole hfirstEnd) hrest
  have hpasted : pieces (before ++ file.text ++ after) = .ok (ps ++ (cs ++ qs)) := by
    rw [List.append_assoc]
    exact pieces_append hps (endWhole_of_endsWhole hfirstEnd)
      (pieces_append hcs (endWhole_of_endsWhole hchildEnd) hqs)
  have htitle : '\x00' ∉ title := Environment.not_nul_reportedOr hreported
  obtain ⟨hnamed, hcounted⟩ := Environment.named_of_finds hfinds hown
  obtain ⟨depth, hdepth⟩ : ∃ depth, (env.loaderFor tree r.includePath).size = depth + 1 :=
    ⟨_, (Nat.succ_pred_eq_of_pos hcounted).symm⟩
  have hstatements : included.statements = pasted.statements := by
    refine Environment.statements_compile_alike (hread _) (scanTemplate_of_pieces hdirective title)
      (hread _) (scanTemplate_of_pieces hpasted title) rfl ?_
    dsimp only
    rw [hdepth]
    exact splice_directive_alike hfinds hcs hflat (iff_of_false hnamed htitle) hstripped depth
  refine ⟨hstatements, fun script script' hscript hscript' s m => ?_⟩
  obtain ⟨made, hmade, hbody⟩ := Compilation.exists_of_statements_eq hstatements hscript'
  obtain rfl := Except.ok.inj (hscript.symm.trans hmade)
  unfold Executor.standard
  rw [hbody]

/-- A file that binds a variable, between two uses of it. -/
theorem include_is_pasted_of_assignment :
    let tree : FileTree := ⟨[(["f".toList], .file "<?py x = 2 ?>".toUTF8.toList)], []⟩
    let compiled (t : Text) := Environment.standard.compile tree ⟨some t, none, none, none⟩
    let first : Text := "a\x7b$x\x7d".toList
    let last : Text := "b\x7b$x\x7d".toList
    ∃ script script',
      (compiled (first ++ includeDirective "f".toList ++ last)).result = .ok script ∧
      (compiled (first ++ "<?py x = 2 ?>".toList ++ last)).result = .ok script' ∧
      script.body = script'.body ∧ script.body.length = 5 ∧
      ∀ s m, Executor.standard s script m = Executor.standard s script' m := by
  intro tree compiled first last
  let r : CompileRequest := ⟨none, none, none, none⟩
  let file : Loaded := ⟨"<?py x = 2 ?>".toList, "f".toList⟩
  have hfirst : scanTemplate first "t".toList = .ok ⟨"t".toList,
      [⟨.literal "a".toList, "t".toList, 1⟩, ⟨.interpolation "x".toList none, "t".toList, 1⟩],
      first⟩ := eq_ok_of_toOption (by decide +kernel)
  have hlast : scanTemplate last "t".toList = .ok ⟨"t".toList,
      [⟨.literal "b".toList, "t".toList, 1⟩, ⟨.interpolation "x".toList none, "t".toList, 1⟩],
      last⟩ := eq_ok_of_toOption (by decide +kernel)
  have hchild : scanTemplate file.text file.filename =
      .ok ⟨"f".toList, [⟨.code " x = 2 ".toList, "f".toList, 1⟩], file.text⟩ :=
    eq_ok_of_toOption (by decide +kernel)
  have hfinds : (Environment.standard.loaderFor tree r.includePath).Finds tree "f".toList file
      ["f".toList] := ⟨by cbv, by cbv⟩
  obtain ⟨hstatements, hruns⟩ := include_is_pasted (r := r) rfl (by simp [r]) hfirst
    (by simp [Document.EndsWhole]) hlast hchild (by simp [Document.EndsWhole]) rfl (by decide)
    (by decide +kernel) hfinds fun _ hown => absurd rfl hown
  -- the pasted template compiles, so the other one does
  let name : Text := "<string>".toList
  let segs : List Segment :=
    [⟨.literal "a".toList, name, 1⟩, ⟨.interpolation "x".toList none, name, 1⟩,
      ⟨.code " x = 2 ".toList, name, 1⟩, ⟨.literal "b".toList, name, 1⟩,
      ⟨.interpolation "x".toList none, name, 1⟩]
  have hsegments : (Environment.standard.resolved? tree
      { r with source := some (first ++ file.text ++ last) }).map Document.segments =
        some segs := by
    decide +kernel
  obtain ⟨script', d, hscript', -, hlaid, hsegs⟩ :=
    exists_laysOut_of_isOk (by decide +kernel) hsegments
  obtain ⟨script, hscript, hbody⟩ := Compilation.exists_of_statements_eq hstatements hscript'
  have hlength : script'.body.length = 5 := by
    rw [hlaid.body_eq, hsegs]
    decide +kernel
  exact ⟨script, script', hscript, hscript', hbody, hbody ▸ hlength,
    hruns script script' hscript hscript'⟩

end Stencil
