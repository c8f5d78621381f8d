import Stencil.Proofs.Diagnostic.Snippet
import Stencil.Proofs.Include.Cycle
import Stencil.Proofs.Include.Placeholders
import Stencil.Proofs.Script.Generable
import Stencil.Run.Report

/-!
# Texts of included files

A resolved document keeps the texts of the files that contributed to it, each under the name that
the file goes by, and an error is shown in the text that is kept under the name of its file. Of
several texts that are met under one name the first is kept. A segment is therefore explained by
what is kept if no other text was met under the name of its file; and two files go by one name only
if the loader gives them one, or if a file has the name that was chosen for the document.

* `Resolves.scannedFrom`: every segment has been scanned from a text that was met.
* `segments_are_explained`: what is kept, and which segments it explains.
* `not_segments_are_explained_of_shared_name`: a file that goes by the name of the document.
-/

namespace Stencil

/-! ## Segments and texts -/

/-- The segment is one of those that a text is scanned into, under the name of its file. -/
def Segment.ScannedFrom (s : Segment) (t : Text) : Prop :=
  ∃ d, scanTemplate t s.filename = .ok d ∧ s ∈ d.segments

/-- Errors placed in the file of a segment are shown in a text: those of code that cannot be
compiled, if the file has a name at all, and those of code that runs. -/
structure Segment.ErrorsShownIn (s : Segment) (r : Resolved) (t : Text) : Prop where
  compiled : ∀ (e : CompileError) (line : Int),
    generate r.document r.sources r.warnings = .error (.syntaxError e) → s.filename ≠ [] →
      e.filename = some s.filename → e.line = some line →
        e.snippet = Snippet.ofSource? t line 0 none
  run : ∀ (script : Script) (c : Config) (n : Nat) (line : Int) (cause : Cause) (reason : Text),
    generate r.document r.sources r.warnings = .ok script →
      locateFailure script n = (s.filename, some line) →
        (executionError script c n cause reason).snippet = Snippet.ofSource? t line 2 none

/-- The text that is kept under the name of a segment is the one that the segment was scanned from,
and errors in its file are shown there. -/
structure Segment.ExplainedBy (s : Segment) (r : Resolved) (t : Text) : Prop where
  kept : r.sources.lookup s.filename = some t
  scanned : s.ScannedFrom t
  shown : s.ErrorsShownIn r t

/-! ## Which texts are kept -/

/-- **Of the texts under one name the first is kept.** -/
theorem lookup_foldl_addSource (files kept : List (Text × Text)) (name : Text) :
    (files.foldl addSource kept).lookup name = (kept ++ files).lookup name := by
  induction files generalizing kept with
  | nil => rw [List.foldl_nil, List.append_nil]
  | cons file files ih =>
    rw [List.foldl_cons, ih, addSource]
    split
    · rename_i hkept
      obtain ⟨t, ht⟩ := Option.isSome_iff_exists.mp hkept
      rw [List.lookup_append, List.lookup_append, List.lookup_cons]
      split
      · rename_i hname
        rw [eq_of_beq hname, ht]
        rfl
      · rfl
    · rw [List.append_assoc]
      rfl

theorem lookup_of_agree {texts : List (Text × Text)} {name t : Text} (hmem : (name, t) ∈ texts)
    (hagree : ∀ t', (name, t') ∈ texts → t' = t) : texts.lookup name = some t := by
  induction texts with
  | nil => cases hmem
  | cons entry texts ih =>
    rw [List.lookup_cons]
    split
    · rename_i hname
      rw [hagree entry.2 (by rw [eq_of_beq hname]; exact List.mem_cons_self)]
    · rename_i hname
      rcases List.mem_cons.mp hmem with rfl | hmem
      · simp at hname
      · exact ih hmem fun t' ht' => hagree t' (List.mem_cons_of_mem _ ht')

/-! ## Texts that are met -/

section Resolves

variable {tree : FileTree} {loader : Loader} {chain : List Location} {name : Text}
  {ss : List Segment} {fates : List Fate} {fault : Option ResolveFault} {s : Segment}

theorem scannedFrom_of_mem {t filename : Text} {d : Document}
    (h : scanTemplate t filename = .ok d) (hs : s ∈ d.segments) :
    s.filename = filename ∧ s.ScannedFrom t := by
  have hname := (filename_of_scanTemplate h).2 s hs
  exact ⟨hname, d, by rw [hname, h], hs⟩

/-- **Every segment has been scanned from a text that was met**, apart from the empty texts in place
of directives that were left out. -/
theorem Resolves.scannedFrom (h : Resolves tree loader chain name ss fates fault)
    (hs : s ∈ Fate.afterAll fates)
    (hplaced : s ∉ (Fate.warningsAll fates).map IncludeWarning.placeholder) :
    s ∈ ss ∨ ∃ t, (s.filename, t) ∈ Fate.filesAll fates ∧ s.ScannedFrom t := by
  -- a segment of a file that takes the place of a directive
  have inFile {file : Loaded} {child : Document} {inner : List Fate}
      (hscan : scanTemplate file.text file.filename = .ok child)
      (hinner : s ∈ child.segments ∨
        ∃ t, (s.filename, t) ∈ Fate.filesAll inner ∧ s.ScannedFrom t) :
      ∃ t, (s.filename, t) ∈ (file.filename, file.text) :: Fate.filesAll inner ∧
        s.ScannedFrom t := by
    rcases hinner with hchild | ⟨t, hmet, hfrom⟩
    · obtain ⟨hname, hfrom⟩ := scannedFrom_of_mem hscan hchild
      exact ⟨file.text, by rw [hname]; exact List.mem_cons_self, hfrom⟩
    · exact ⟨t, List.mem_cons_of_mem _ hmet, hfrom⟩
  induction h with
  | nil | unnamed | unloaded => cases hs
  | kept _ _ ih =>
    rcases List.mem_cons.mp hs with rfl | hs
    · exact .inl List.mem_cons_self
    · exact (ih hs hplaced).imp_left (List.mem_cons_of_mem _)
  | missing _ _ _ ih | cyclic _ _ _ _ ih =>
    rcases List.mem_cons.mp hs with rfl | hs
    · exact absurd List.mem_cons_self hplaced
    · exact (ih hs fun hmem => hplaced (List.mem_cons_of_mem _ hmem)).imp_left
        (List.mem_cons_of_mem _)
  | spliced _ _ _ hscan _ _ ihInner ih =>
    rw [Fate.warningsAll, List.map_append, List.mem_append, not_or] at hplaced
    rcases List.mem_append.mp hs with hs | hs
    · obtain ⟨t, hmet, hfrom⟩ := inFile hscan (ihInner hs hplaced.1)
      exact .inr ⟨t, List.mem_append_left _ hmet, hfrom⟩
    · refine (ih hs hplaced.2).imp (List.mem_cons_of_mem _) ?_
      rintro ⟨t, hmet, hfrom⟩
      exact ⟨t, List.mem_append_right _ hmet, hfrom⟩
  | stopped _ _ _ hscan _ ihInner =>
    rw [Fate.warningsAll, List.map_append, List.mem_append, not_or] at hplaced
    have hs := (List.mem_append.mp hs).resolve_right List.not_mem_nil
    obtain ⟨t, hmet, hfrom⟩ := inFile hscan (ihInner hs hplaced.1)
    exact .inr ⟨t, List.mem_append_left _ hmet, hfrom⟩
  | unscanned => cases hs

/-- A file that was met has been found, and is not one of those on the chain. -/
theorem Resolves.finds_of_mem_files (h : Resolves tree loader chain name ss fates fault)
    {filename t : Text} (hmet : (filename, t) ∈ Fate.filesAll fates) :
    ∃ path identity, loader.Finds tree path ⟨t, filename⟩ identity ∧ identity ∉ chain := by
  -- the file that takes the place of a directive, or one that is met in it
  have inFile {chain : List Location} {path : Text} {identity : Location} {file : Loaded}
      {inner : List Fate} (hfile : loader.Finds tree path file identity) (hnot : identity ∉ chain)
      (hinner : (filename, t) ∈ Fate.filesAll inner →
        ∃ path' identity', loader.Finds tree path' ⟨t, filename⟩ identity' ∧
          identity' ∉ identity :: chain)
      (hmet : (filename, t) ∈ (file.filename, file.text) :: Fate.filesAll inner) :
      ∃ path identity, loader.Finds tree path ⟨t, filename⟩ identity ∧ identity ∉ chain := by
    rcases List.mem_cons.mp hmet with hhere | hmet
    · cases hhere
      exact ⟨path, identity, hfile, hnot⟩
    · obtain ⟨path', identity', hfinds, hnot'⟩ := hinner hmet
      exact ⟨path', identity', hfinds, fun hmem => hnot' (List.mem_cons_of_mem _ hmem)⟩
  induction h with
  | nil | unnamed | unloaded => cases hmet
  | kept _ _ ih | missing _ _ _ ih | cyclic _ _ _ _ ih => exact ih hmet
  | spliced _ hfile hnot _ _ _ ihInner ih =>
    rcases List.mem_append.mp hmet with hmet | hmet
    · exact inFile hfile hnot ihInner hmet
    · exact ih hmet
  | stopped _ hfile hnot _ _ ihInner =>
    exact inFile hfile hnot ihInner ((List.mem_append.mp hmet).resolve_right List.not_mem_nil)
  | unscanned _ hfile hnot =>
    have hnone : (filename, t) ∉ Fate.filesAll [] := nofun
    exact inFile hfile hnot (fun hinner => absurd hinner hnone) hmet

end Resolves

/-! ## Where errors are shown -/

section Errors

variable {d : Draft} {s : Segment} {ss : List Segment} {e : CompileError}

theorem Draft.syntaxError_congr {d' : Draft} (h : d'.sources = d.sources) (message : Text)
    (place : Option (Text × Int)) : d'.syntaxError message place = d.syntaxError message place := by
  rw [syntaxError, syntaxError, h]

theorem Draft.exists_syntaxError_of_add (h : d.add s = .error (.syntaxError e)) :
    ∃ message place, d.syntaxError message place = .syntaxError e := by
  unfold add at h
  split at h
  case h_5 =>
    split at h
    · cases h
    extract_lets at h
    split at h
    case h_2 message line _ => exact ⟨message, _, Except.error.inj h⟩
    all_goals cases h
  all_goals cases h

theorem Draft.exists_syntaxError_of_foldlM
    (h : ss.foldlM Draft.add d = .error (.syntaxError e)) :
    ∃ message place, d.syntaxError message place = .syntaxError e := by
  induction ss generalizing d with
  | nil => cases h
  | cons s ss ih =>
    rw [List.foldlM_cons] at h
    cases hadd : d.add s with
    | error e' =>
      rw [hadd] at h
      cases h
      exact exists_syntaxError_of_add hadd
    | ok d' =>
      rw [hadd] at h
      obtain ⟨message, place, hplace⟩ := ih h
      have hsources : d'.sources = d.sources := by rw [(eq_extend_of_add hadd).1]; rfl
      exact ⟨message, place, by rw [← hplace, syntaxError_congr hsources]⟩

/-- Code that cannot be compiled is reported as the draft with the kept texts reports it. -/
theorem exists_syntaxError_of_generate {d : Document} {sources : List (Text × Text)}
    {warnings : List IncludeWarning} (h : generate d sources warnings = .error (.syntaxError e)) :
    ∃ message place,
      (Draft.empty (keptSources d sources)).syntaxError message place = .syntaxError e := by
  rw [generate_eq] at h
  cases hfold : d.segments.foldlM Draft.add (.empty (keptSources d sources)) with
  | error e' =>
    rw [hfold] at h
    cases h
    exact Draft.exists_syntaxError_of_foldlM hfold
  | ok draft =>
    have hsources : draft.sources = (Draft.empty (keptSources d sources)).sources := by
      rw [(Draft.eq_extend_of_foldlM hfold).1]
      rfl
    rw [hfold] at h
    have hscript : draft.script d.name warnings = .error (.syntaxError e) := h
    unfold Draft.script at hscript
    split at hscript
    · cases hscript
    split at hscript
    · rename_i misuse _
      cases misuse with
      | constantName name => cases hscript
      | misplaced message line =>
        refine ⟨message, draft.locate line, ?_⟩
        rw [← Draft.syntaxError_congr hsources]
        exact Except.error.inj hscript
    · cases hscript

/-- An error of code is shown in the text that is kept under the name of its file. -/
theorem Draft.snippet_syntaxError {message filename t : Text} {place : Option (Text × Int)}
    {line : Int} (h : d.syntaxError message place = .syntaxError e)
    (hfilename : e.filename = some filename) (hline : e.line = some line)
    (hnamed : filename ≠ []) (hkept : d.sources.lookup filename = some t) (ht : t ≠ []) :
    e.snippet = Snippet.ofSource? t line 0 none := by
  obtain rfl := GenerateError.syntaxError.inj h
  obtain ⟨place, rfl, rfl⟩ := Option.map_eq_some_iff.mp hfilename
  obtain rfl : place.2 = line := Option.some.inj hline
  have hfilter : (some place.1).filter (! ·.isEmpty) = some place.1 :=
    Option.filter_eq_some_iff.mpr ⟨rfl, by simpa using hnamed⟩
  have hsource : ((some place.1).filter (! ·.isEmpty)).bind (fun name => d.sources.lookup name) =
      some t := by rw [hfilter, Option.bind_some, hkept]
  rw [CompileError.new, Option.map_some, Option.map_some, hsource]
  exact snippet_of_known ht place.2 0 none

theorem snippet_executionError {script : Script} {c : Config} {n : Nat} {line : Int}
    {cause : Cause} {reason filename t : Text}
    (hplace : locateFailure script n = (filename, some line))
    (hkept : script.sources.lookup filename = some t) (ht : t ≠ []) :
    (executionError script c n cause reason).snippet = Snippet.ofSource? t line 2 none := by
  rw [executionError, hplace]
  dsimp only
  rw [hkept]
  exact snippet_of_known ht line 2 none

theorem sources_of_generate {d : Document} {sources : List (Text × Text)}
    {warnings : List IncludeWarning} {script : Script}
    (h : generate d sources warnings = .ok script) : script.sources = keptSources d sources := by
  rw [generate_eq] at h
  obtain ⟨draft, hfold, hscript⟩ := exists_ok_of_bind h
  rw [(Draft.eq_extend_of_foldlM hfold).1] at hscript
  unfold Draft.script at hscript
  split_ifs at hscript
  split at hscript
  · cases hscript
  · cases hscript
    rfl

end Errors

/-! ## Names of files -/

/-- A loader gives no two texts one name. -/
def Loader.TellsApart (loader : Loader) : Prop :=
  ∀ path path' file file', loader.load path = .ok file → loader.load path' = .ok file' →
    file.filename = file'.filename → file.text = file'.text

/-- On disk a name leads to one file. -/
theorem SearchPath.tellsApart (search : SearchPath) (tree : FileTree) :
    (search.loader tree).TellsApart := by
  intro path path' file file' hload hload' hname
  have htext := readText_of_load hload
  rw [hname, readText_of_load hload'] at htext
  exact (Except.ok.inj htext).symm

/-- Texts that a loader holds itself go by the names that they are held under. -/
theorem Loader.lookup_of_ofTexts {texts : List (Text × Text)} {path : Text} {file : Loaded}
    (h : (ofTexts texts).load path = .ok file) :
    texts.lookup file.filename = some file.text := by
  simp only [ofTexts] at h
  split at h
  · rename_i text hfound
    cases h
    exact hfound
  · cases h

theorem Loader.tellsApart_ofTexts (texts : List (Text × Text)) : (ofTexts texts).TellsApart := by
  intro path path' file file' hload hload' hname
  have htext := lookup_of_ofTexts hload
  rw [hname, lookup_of_ofTexts hload'] at htext
  exact (Option.some.inj htext).symm

/-! ## Segments explained -/

theorem Segment.ScannedFrom.ne_nil {s : Segment} {t : Text} (h : s.ScannedFrom t) : t ≠ [] := by
  obtain ⟨d, hscan, hs⟩ := h
  rintro rfl
  obtain ⟨ps, hps, rfl⟩ := exists_pieces_of_scanTemplate hscan
  rw [pieces] at hps
  cases hps
  cases hs

/-- A text that is kept under the name of a segment explains it, if the segment was scanned from
it. -/
theorem Segment.ScannedFrom.explainedBy {s : Segment} {r : Resolved} {t : Text}
    (h : s.ScannedFrom t) (hkept : r.sources.lookup s.filename = some t) : s.ExplainedBy r t := by
  have hsources : keptSources r.document r.sources = r.sources := by
    cases hr : r.sources with
    | nil =>
      rw [hr] at hkept
      cases hkept
    | cons file files => rfl
  refine ⟨hkept, h, fun e line hfails hnamed hfilename hline => ?_,
    fun script c n line cause reason hscript hplace => ?_⟩
  · obtain ⟨message, place, hplace⟩ := exists_syntaxError_of_generate hfails
    rw [hsources] at hplace
    exact Draft.snippet_syntaxError hplace hfilename hline hnamed hkept h.ne_nil
  · refine snippet_executionError hplace ?_ h.ne_nil
    rw [sources_of_generate hscript, hsources, hkept]

/-- **Segments are explained by the texts that are kept.** The texts that are met are that of the
document and those of the files that take the place of directives, all given by the loader; of those
under one name the first is kept. Every segment that is no placeholder was scanned from a text that
was met under the name of its file. If no other text was met under that name, the segment is
explained: this text is kept, and all errors in the file are shown in it. That goes for all segments
if the loader gives no two texts one name, and either the name of the document is the path that it
was read from or the loader gives no other text this name. -/
theorem segments_are_explained {tree : FileTree} {loader : Loader} {t name : Text} {d : Document}
    (hscan : scanTemplate t name = .ok d) {origin : Option Text} {r : Resolved}
    (h : (resolve tree loader d origin).result = .ok r) :
    ∃ chain fates, originChain tree origin = .ok chain ∧
      Resolves tree loader chain name d.segments fates none ∧
      r.document.segments = Fate.afterAll fates ∧
      (∀ filename u, (filename, u) ∈ Fate.filesAll fates →
        ∃ path, loader.load path = .ok ⟨u, filename⟩) ∧
      (∀ n, r.sources.lookup n = ((name, t) :: Fate.filesAll fates).lookup n) ∧
      (∀ s ∈ r.document.segments, s ∉ r.warnings.map IncludeWarning.placeholder →
        ∃ u, (s.filename, u) ∈ (name, t) :: Fate.filesAll fates ∧ s.ScannedFrom u ∧
          ((∀ u', (s.filename, u') ∈ (name, t) :: Fate.filesAll fates → u' = u) →
            s.ExplainedBy r u)) ∧
      (loader.TellsApart →
        (origin = some name ∨ ∀ path u, loader.load path = .ok ⟨u, name⟩ → u = t) →
          ∀ s ∈ r.document.segments, s ∉ r.warnings.map IncludeWarning.placeholder →
            ∃ u, s.ExplainedBy r u) := by
  obtain ⟨chain, fates, hchain, hresolves, rfl⟩ := exists_resolves_of_resolve h
  obtain ⟨ps, hps, hd⟩ := exists_pieces_of_scanTemplate hscan
  have hname : d.name = name := congrArg Document.name hd
  have hsource : d.source = t := congrArg Document.source hd
  rw [hname] at hresolves
  have hlookup (n : Text) : ((Fate.outcome fates none).resolved d).sources.lookup n =
      ((name, t) :: Fate.filesAll fates).lookup n := by
    rw [Spliced.resolved, hname, hsource]
    exact lookup_foldl_addSource (Fate.filesAll fates) [(name, t)] n
  have hmet (s : Segment) (hs : s ∈ Fate.afterAll fates)
      (hplaced : s ∉ (Fate.warningsAll fates).map IncludeWarning.placeholder) :
      ∃ u, (s.filename, u) ∈ (name, t) :: Fate.filesAll fates ∧ s.ScannedFrom u := by
    rcases hresolves.scannedFrom hs hplaced with hown | ⟨u, hmet, hfrom⟩
    · obtain ⟨hfilename, hfrom⟩ := scannedFrom_of_mem hscan hown
      exact ⟨t, by rw [hfilename]; exact List.mem_cons_self, hfrom⟩
    · exact ⟨u, List.mem_cons_of_mem _ hmet, hfrom⟩
  refine ⟨chain, fates, hchain, hresolves, rfl, fun filename u hfile => ?_, hlookup,
    fun s hs hplaced => ?_, fun happart hown s hs hplaced => ?_⟩
  · obtain ⟨path, identity, hfinds, -⟩ := hresolves.finds_of_mem_files hfile
    exact ⟨path, hfinds.load_eq⟩
  · obtain ⟨u, hmem, hfrom⟩ := hmet s hs hplaced
    refine ⟨u, hmem, hfrom, fun hagree => hfrom.explainedBy ?_⟩
    rw [hlookup, lookup_of_agree hmem hagree]
  · have hnamed (u : Text) (hfile : (name, u) ∈ Fate.filesAll fates) : u = t := by
      obtain ⟨path, identity, hfinds, hnot⟩ := hresolves.finds_of_mem_files hfile
      rcases hown with rfl | hown
      · -- the file that the document was read from is on the chain
        rw [originChain, hfinds.identity_eq] at hchain
        cases hchain
        exact absurd List.mem_cons_self hnot
      · exact hown path u hfinds.load_eq
    have hagree {filename u u' : Text} (hu : (filename, u) ∈ (name, t) :: Fate.filesAll fates)
        (hu' : (filename, u') ∈ (name, t) :: Fate.filesAll fates) : u' = u := by
      rcases List.mem_cons.mp hu with heq | hu <;> rcases List.mem_cons.mp hu' with heq' | hu'
      · cases heq
        cases heq'
        rfl
      · cases heq
        exact hnamed u' hu'
      · cases heq'
        exact (hnamed u hu).symm
      · obtain ⟨path, identity, hfinds, -⟩ := hresolves.finds_of_mem_files hu
        obtain ⟨path', identity', hfinds', -⟩ := hresolves.finds_of_mem_files hu'
        exact happart path' path _ _ hfinds'.load_eq hfinds.load_eq rfl
    obtain ⟨u, hmem, hfrom⟩ := hmet s hs hplaced
    refine ⟨u, hfrom.explainedBy ?_⟩
    rw [hlookup, lookup_of_agree hmem fun u' hmem' => hagree hmem hmem']

/-- A file with code, included on the second line of a document, whatever the name of that is. -/
theorem resolve_included_code (title : Text) :
    let b : Text := "b".toList
    let t : Text := "a\n<?include b?>".toList
    let held : Text := "<?py 1/0 ?>".toList
    ∃ d, scanTemplate t title = .ok d ∧
      (resolve ⟨[], []⟩ (Loader.ofTexts [(b, held)]) d none).result = .ok
        { document :=
            ⟨title, [⟨.literal "a\n".toList, title, 1⟩, ⟨.code " 1/0 ".toList, b, 1⟩], t⟩
          warnings := []
          sources := addSource [(title, t)] (b, held) } := by
  intro b t held
  let tree : FileTree := ⟨[], []⟩
  let loader := Loader.ofTexts [(b, held)]
  let x : Segment := ⟨.literal "a\n".toList, title, 1⟩
  let s : Segment := ⟨.code " 1/0 ".toList, b, 1⟩
  let directive : Segment := ⟨.directive b, title, 2⟩
  have hpieces : pieces t = .ok [.text "a\n".toList, .directive " b".toList] := by decide +kernel
  have hchild : scanTemplate held b = .ok ⟨b, [s], held⟩ := eq_ok_of_toOption (by decide +kernel)
  have hfile : loader.Finds tree b ⟨held, b⟩ [b] := ⟨rfl, by cbv⟩
  have hpart : spliceSegment tree loader (splice tree loader 1) [] title directive =
      (Fate.spliced directive ⟨held, b⟩ [b] [.kept s]).part none := by
    rw [spliceSegment_of_scanned rfl hfile (by decide) hchild]
    rfl
  have hsplice : splice tree loader 2 [] title [x, directive] =
      Fate.outcome [.kept x, .spliced directive ⟨held, b⟩ [b] [.kept s]] none :=
    splice_cons_of_part (spliceSegment_of_kept rfl) <| splice_cons_of_part hpart rfl
  refine ⟨_, scanTemplate_of_pieces hpieces title, ?_⟩
  rw [resolve_eq_of_splice (x := Fate.outcome _ none) rfl hsplice]
  rfl

/-- The code of the file is explained, if the file does not have the name of the document. -/
theorem segments_are_explained_of_code :
    let title : Text := "t".toList
    let t : Text := "a\n<?include b?>".toList
    let loader := Loader.ofTexts [("b".toList, "<?py 1/0 ?>".toList)]
    ∃ d r, scanTemplate t title = .ok d ∧ (resolve ⟨[], []⟩ loader d none).result = .ok r ∧
      loader.TellsApart ∧ (∀ path u, loader.load path = .ok ⟨u, title⟩ → u = t) ∧
      ∃ u, (⟨.code " 1/0 ".toList, "b".toList, 1⟩ : Segment).ExplainedBy r u := by
  intro title t loader
  obtain ⟨d, hscan, hr⟩ := resolve_included_code title
  have happart := Loader.tellsApart_ofTexts [("b".toList, "<?py 1/0 ?>".toList)]
  have hown (path u : Text) (hload : loader.load path = .ok ⟨u, title⟩) : u = t := by
    cases Loader.lookup_of_ofTexts hload
  obtain ⟨_, _, -, -, -, -, -, -, hexplained⟩ := segments_are_explained hscan hr
  refine ⟨d, _, hscan, hr, happart, hown, hexplained happart (.inr hown) _ ?_ nofun⟩
  exact List.mem_cons_of_mem _ List.mem_cons_self

/-- **A file that goes by the name of the document is not explained.** The document bears the name
`b`; the text of the file `b` is not kept, and an error of its code is shown in the document. -/
theorem not_segments_are_explained_of_shared_name :
    let b : Text := "b".toList
    let t : Text := "a\n<?include b?>".toList
    let held : Text := "<?py 1/0 ?>".toList
    let s : Segment := ⟨.code " 1/0 ".toList, b, 1⟩
    ∃ d r script, scanTemplate t b = .ok d ∧
      (resolve ⟨[], []⟩ (Loader.ofTexts [(b, held)]) d none).result = .ok r ∧
      s ∈ r.document.segments ∧ s ∉ r.warnings.map IncludeWarning.placeholder ∧
      s.ScannedFrom held ∧ (∀ u, ¬ s.ExplainedBy r u) ∧
      generate r.document r.sources r.warnings = .ok script ∧
      locateFailure script 2 = (b, some 1) ∧
      ∀ c cause reason, (executionError script c 2 cause reason).snippet =
        Snippet.ofSource? t 1 2 none := by
  intro b t held s
  let x : Segment := ⟨.literal "a\n".toList, b, 1⟩
  obtain ⟨d, hscan, hr⟩ := resolve_included_code b
  let r : Resolved := ⟨⟨b, [x, s], t⟩, [], [(b, t)]⟩
  have hresolved : (resolve ⟨[], []⟩ (Loader.ofTexts [(b, held)]) d none).result = .ok r := hr
  have hheld : scanTemplate held b = .ok ⟨b, [s], held⟩ := eq_ok_of_toOption (by decide +kernel)
  have howned : scanTemplate t b = .ok ⟨b, [x, ⟨.directive b, b, 2⟩], t⟩ :=
    eq_ok_of_toOption (by decide +kernel)
  obtain ⟨script, hscript⟩ := exists_ok_of_isOk (x := generate r.document r.sources r.warnings)
    (by decide +kernel)
  have hlocate : script.locate (2 : Nat) = some (b, 1) := by
    rw [Script.locate, (laysOut_of_generate hscript).markers_eq]
    decide +kernel
  have hplace : locateFailure script 2 = (b, some 1) := by rw [locateFailure, hlocate]
  have hnot (u : Text) : ¬ s.ExplainedBy r u := by
    rintro ⟨hkept, ⟨d', hscan', hs⟩, -⟩
    cases hkept
    obtain rfl := Except.ok.inj (howned.symm.trans hscan')
    revert hs
    decide
  refine ⟨d, r, script, hscan, hresolved, List.mem_cons_of_mem x List.mem_cons_self, nofun,
    ⟨_, hheld, List.mem_cons_self⟩, hnot, hscript, hplace, fun c cause reason => ?_⟩
  refine snippet_executionError hplace ?_ (by decide)
  rw [sources_of_generate hscript]
  rfl

end Stencil
