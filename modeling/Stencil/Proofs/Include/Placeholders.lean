import Mathlib
import Stencil.Proofs.Include.Chain

/-!
# Warnings and placeholders

Empty text stands in a resolved document only in place of directives that were left out, for
scanning gives no empty text. The warnings and the empty texts are therefore the same in number and
order, and each warning has the place of its text. There are as many warnings as there are
directives that cannot be satisfied, in the document and in all files that were included.

* `warnings_match_placeholders`: the empty texts, the warnings and the directives correspond.
-/

namespace Stencil

variable {tree : FileTree} {loader : Loader} {chain : List Location} {name : Text} {s : Segment}
  {ss : List Segment} {fates : List Fate} {fault : Option ResolveFault}

/-! ## Directives that are met -/

/-- A directive that is met: the files that are being included there, the file that it stands in,
and the directive itself. -/
structure Meeting where
  chain : List Location
  filename : Text
  directive : Segment

namespace Fate

mutual

/-- The directives met at a segment, in document order: the segment itself if it is a directive, and
those in the file that takes its place. -/
def met (chain : List Location) (name : Text) : Fate → List Meeting
  | kept _ => []
  | leftOut s _ => [⟨chain, name, s⟩]
  | spliced s file identity inner =>
    ⟨chain, name, s⟩ :: metAll (identity :: chain) file.filename inner

/-- The directives met at several segments. -/
def metAll (chain : List Location) (name : Text) : List Fate → List Meeting
  | [] => []
  | f :: fs => f.met chain name ++ metAll chain name fs

end

theorem mem_metAll_of_mem {f : Fate} {m : Meeting} (hf : f ∈ fates) (hm : m ∈ f.met chain name) :
    m ∈ metAll chain name fates := by
  induction fates with
  | nil => cases hf
  | cons g fates ih =>
    rw [metAll, List.mem_append]
    rcases List.mem_cons.mp hf with rfl | hf
    · exact .inl hm
    · exact .inr (ih hf)

/-- A fate that fits a directive is met. -/
theorem Fits.mem_met {f : Fate} (h : f.Fits tree loader chain name)
    (hdirective : f.before.isDirective) : ⟨chain, name, f.before⟩ ∈ f.met chain name := by
  cases h with
  | kept hs =>
    unfold Segment.isDirective at hdirective
    rw [before, hs] at hdirective
    cases hdirective
  | missing | cyclic => exact List.mem_singleton_self _
  | spliced => exact List.mem_cons_self

end Fate

/-- All directives are met, at every level. -/
theorem Resolves.mem_metAll (h : Resolves tree loader chain name ss fates fault)
    {c : List Location} {n : Text} {fs : List Fate} (hlevel : Fate.Level chain name fates c n fs)
    {f : Fate} (hf : f ∈ fs) (hdirective : f.before.isDirective) :
    ⟨c, n, f.before⟩ ∈ Fate.metAll chain name fates := by
  induction hlevel generalizing ss fault with
  | here => exact Fate.mem_metAll_of_mem hf ((h.fits hf).mem_met hdirective)
  | inside hmem _ ih =>
    obtain _ | _ | _ | ⟨-, -, -, hinner⟩ := h.fits hmem
    exact Fate.mem_metAll_of_mem hmem (List.mem_cons_of_mem _ (ih hinner hf))

/-! ## Directives that cannot be satisfied -/

/-- A directive calls for a warning: its file is not found, or is being included already. The
warning names the file and the line that the directive stands in, and the path that it asks for. -/
inductive Meeting.CallsFor (tree : FileTree) (loader : Loader) (m : Meeting) :
    IncludeWarning → Prop where
  | missing {path message : Text} (hpath : m.directive.path? = some path)
      (hload : loader.load path = .error (.notFound message)) :
      CallsFor tree loader m ⟨m.filename, m.directive.line, path, .includeNotFound⟩
  | cyclic {path : Text} {file : Loaded} {identity : Location}
      (hpath : m.directive.path? = some path) (hfile : loader.Finds tree path file identity)
      (hmem : identity ∈ m.chain) :
      CallsFor tree loader m ⟨m.filename, m.directive.line, path, .includeCycle⟩

/-- A directive that calls for a warning cannot be satisfied. -/
def Meeting.Unsatisfied (tree : FileTree) (loader : Loader) (m : Meeting) : Prop :=
  ∃ w, m.CallsFor tree loader w

/-- A file that can be put in place of its directive calls for no warning. -/
theorem Meeting.not_unsatisfied_of_finds {m : Meeting} {path : Text} {file : Loaded}
    {identity : Location} (hpath : m.directive.path? = some path)
    (hfile : loader.Finds tree path file identity) (hnot : identity ∉ m.chain) :
    ¬ m.Unsatisfied tree loader := by
  rintro ⟨w, hw⟩
  cases hw with
  | missing hpath' hload =>
    obtain rfl := Option.some.inj (hpath.symm.trans hpath')
    cases hload.symm.trans hfile.load_eq
  | cyclic hpath' hfile' hmem =>
    obtain rfl := Option.some.inj (hpath.symm.trans hpath')
    obtain ⟨-, rfl⟩ := hfile.unique hfile'
    exact hnot hmem

section Warnings

open scoped Classical

/-- The directives that cannot be satisfied, of those that are met. -/
noncomputable def unsatisfied (tree : FileTree) (loader : Loader) (met : List Meeting) :
    List Meeting :=
  met.filter fun m => m.Unsatisfied tree loader

theorem unsatisfied_append (met met' : List Meeting) :
    unsatisfied tree loader (met ++ met') =
      unsatisfied tree loader met ++ unsatisfied tree loader met' :=
  List.filter_append met met'

theorem unsatisfied_cons_of_pos {m : Meeting} (h : m.Unsatisfied tree loader)
    (met : List Meeting) : unsatisfied tree loader (m :: met) = m :: unsatisfied tree loader met :=
  List.filter_cons_of_pos (by simpa using h)

theorem unsatisfied_cons_of_neg {m : Meeting} (h : ¬ m.Unsatisfied tree loader)
    (met : List Meeting) : unsatisfied tree loader (m :: met) = unsatisfied tree loader met :=
  List.filter_cons_of_neg (by simpa using h)

end Warnings

/-- What is left out has been warned of: one warning for each directive, in document order. -/
def Warned (tree : FileTree) (loader : Loader) (met : List Meeting)
    (warnings : List IncludeWarning) : Prop :=
  List.Forall₂ (Meeting.CallsFor tree loader) (unsatisfied tree loader met) warnings

namespace Warned

variable {m : Meeting} {met met' : List Meeting} {w : IncludeWarning}
  {warnings warnings' : List IncludeWarning}

theorem nil : Warned tree loader [] [] := List.Forall₂.nil

theorem append (h : Warned tree loader met warnings) (h' : Warned tree loader met' warnings') :
    Warned tree loader (met ++ met') (warnings ++ warnings') := by
  unfold Warned
  rw [unsatisfied_append]
  exact List.rel_append h h'

theorem cons (hm : m.CallsFor tree loader w) (h : Warned tree loader met warnings) :
    Warned tree loader (m :: met) (w :: warnings) := by
  unfold Warned
  rw [unsatisfied_cons_of_pos ⟨w, hm⟩]
  exact .cons hm h

theorem skip (hm : ¬ m.Unsatisfied tree loader) (h : Warned tree loader met warnings) :
    Warned tree loader (m :: met) warnings := by
  unfold Warned
  rw [unsatisfied_cons_of_neg hm]
  exact h

end Warned

/-- **One warning is given for each directive that cannot be satisfied**, wherever it stands. -/
theorem Resolves.warned (h : Resolves tree loader chain name ss fates fault) :
    Warned tree loader (Fate.metAll chain name fates) (Fate.warningsAll fates) := by
  induction h with
  | nil | unnamed | unloaded => exact .nil
  | kept hs _ ih => exact ih
  | missing hs hload _ ih => exact .cons (.missing hs hload) ih
  | cyclic hs hfile hmem _ ih => exact .cons (.cyclic hs hfile hmem) ih
  | @spliced chain name path s ss file identity child inner fates fault hs hfile hnot hscan _ _
      ihInner ih =>
    have hnone : ¬ (⟨chain, name, s⟩ : Meeting).Unsatisfied tree loader :=
      Meeting.not_unsatisfied_of_finds hs hfile hnot
    obtain ⟨hname, -⟩ := Loaded.segments_of_scanTemplate hscan
    rw [← hname] at ihInner
    exact .skip hnone (ihInner.append ih)
  | @stopped chain name path s ss file identity child inner fault hs hfile hnot hscan _ ihInner =>
    have hnone : ¬ (⟨chain, name, s⟩ : Meeting).Unsatisfied tree loader :=
      Meeting.not_unsatisfied_of_finds hs hfile hnot
    obtain ⟨hname, -⟩ := Loaded.segments_of_scanTemplate hscan
    rw [← hname] at ihInner
    exact .skip hnone (ihInner.append .nil)
  | unscanned hs hfile hnot => exact .skip (Meeting.not_unsatisfied_of_finds hs hfile hnot) .nil

/-! ## Empty texts -/

/-- Is the segment empty text? -/
def Segment.isEmptyText (s : Segment) : Bool := s.body == .literal []

/-- The empty text that stands in place of a directive that is warned of. -/
def IncludeWarning.placeholder (w : IncludeWarning) : Segment := ⟨.literal [], w.filename, w.line⟩

/-- Scanning gives no empty text. -/
theorem isEmptyText_of_scanTemplate {t filename : Text} {d : Document}
    (h : scanTemplate t filename = .ok d) : ∀ s ∈ d.segments, s.isEmptyText = false := by
  intro s hs
  obtain ⟨ps, hpieces, rfl⟩ := exists_pieces_of_scanTemplate h
  obtain ⟨before, p, after, rfl, hbody, -⟩ := exists_piece_of_mem_segmentsFrom hs
  have hspelling : p.spelling ≠ [] :=
    (segmentation_of_pieces hpieces).spelling_ne_nil p (by simp)
  unfold Segment.isEmptyText
  rw [hbody]
  cases p with
  | text u =>
    have hu : u ≠ [] := hspelling
    simpa [Piece.body] using hu
  | code u | directive u | interpolation name style => rfl

/-- **The empty texts of what is spliced are those of the directives left out**, if there are none
among the segments themselves. -/
theorem Resolves.filter_isEmptyText (h : Resolves tree loader chain name ss fates fault)
    (hss : ∀ s ∈ ss, s.isEmptyText = false) :
    (Fate.afterAll fates).filter Segment.isEmptyText =
      (Fate.warningsAll fates).map IncludeWarning.placeholder := by
  have hsplit (f : Fate) (fs : List Fate) : (Fate.afterAll (f :: fs)).filter Segment.isEmptyText =
      f.after.filter Segment.isEmptyText ++ (Fate.afterAll fs).filter Segment.isEmptyText := by
    rw [Fate.afterAll, List.filter_append]
  induction h with
  | nil | unnamed | unloaded => rfl
  | @kept _ _ s _ _ _ hs _ ih =>
    have hs : s.isEmptyText = false := hss s List.mem_cons_self
    rw [hsplit, ih fun s hs => hss s (List.mem_cons_of_mem _ hs)]
    simp [Fate.after, Fate.warningsAll, Fate.warnings, hs]
  | missing _ _ _ ih | cyclic _ _ _ _ ih =>
    rw [hsplit, ih fun s hs => hss s (List.mem_cons_of_mem _ hs)]
    rfl
  | spliced _ _ _ hscan _ _ ihInner ih =>
    have hinner := ihInner (isEmptyText_of_scanTemplate hscan)
    have hrest := ih fun s hs => hss s (List.mem_cons_of_mem _ hs)
    rw [hsplit, hrest, Fate.warningsAll, List.map_append]
    exact congrArg (· ++ _) hinner
  | stopped _ _ _ hscan _ ihInner =>
    have hinner := ihInner (isEmptyText_of_scanTemplate hscan)
    rw [hsplit, Fate.warningsAll, List.map_append]
    exact congrArg (· ++ []) hinner
  | unscanned => rfl

/-! ## The correspondence -/

/-- A directive is left out where it stands exactly when it cannot be satisfied. -/
theorem Fate.Fits.unsatisfied_iff {f : Fate} (h : f.Fits tree loader chain name)
    (hdirective : f.before.isDirective) :
    (⟨chain, name, f.before⟩ : Meeting).Unsatisfied tree loader ↔
      ∃ w, f = .leftOut f.before w ∧ f.after = [w.placeholder] := by
  cases h with
  | kept hs =>
    unfold Segment.isDirective at hdirective
    rw [before, hs] at hdirective
    cases hdirective
  | missing hs hload => exact iff_of_true ⟨_, .missing hs hload⟩ ⟨_, rfl, rfl⟩
  | cyclic hs hfile hmem => exact iff_of_true ⟨_, .cyclic hs hfile hmem⟩ ⟨_, rfl, rfl⟩
  | spliced hs hfile hnot =>
    refine iff_of_false (Meeting.not_unsatisfied_of_finds hs hfile hnot) ?_
    rintro ⟨w, hleft, -⟩
    cases hleft

/-- **Warnings and placeholders correspond.** In a resolved document the empty texts are, one by one
and in order, those that the warnings call for, each with the file and the line of its warning. The
warnings are, one by one and in order, those that the unsatisfied directives of the document and of
all included files call for: each names the place of its directive and the path that it asks for. A
directive, at whatever level, is unsatisfied exactly when empty text stands in its place. -/
theorem warnings_match_placeholders {tree : FileTree} {loader : Loader} {t name : Text}
    {d : Document} (hscan : scanTemplate t name = .ok d) {origin : Option Text} {r : Resolved}
    (h : (resolve tree loader d origin).result = .ok r) :
    r.document.segments.filter Segment.isEmptyText = r.warnings.map IncludeWarning.placeholder ∧
    ∃ chain fates, originChain tree origin = .ok chain ∧
      Resolves tree loader chain d.name d.segments fates none ∧
      r.document.segments = Fate.afterAll fates ∧
      List.Forall₂ (Meeting.CallsFor tree loader)
        (unsatisfied tree loader (Fate.metAll chain d.name fates)) r.warnings ∧
      ∀ c n fs, Fate.Level chain d.name fates c n fs → ∀ f ∈ fs, f.before.isDirective →
        ⟨c, n, f.before⟩ ∈ Fate.metAll chain d.name fates ∧
        ((⟨c, n, f.before⟩ : Meeting).Unsatisfied tree loader ↔
          ∃ w, f = .leftOut f.before w ∧ f.after = [w.placeholder]) := by
  obtain ⟨chain, fates, hchain, hresolves, rfl⟩ := exists_resolves_of_resolve h
  have hempty := hresolves.filter_isEmptyText (isEmptyText_of_scanTemplate hscan)
  refine ⟨hempty, chain, fates, hchain, hresolves, rfl, hresolves.warned, ?_⟩
  intro c n fs hlevel f hf hdirective
  obtain ⟨ss, fault, hinner, -⟩ := hresolves.level hlevel
  exact ⟨hresolves.mem_metAll hlevel hf hdirective, (hinner.fits hf).unsatisfied_iff hdirective⟩

/-- A file that includes itself and a file that is missing, in a template that does so, too. -/
theorem warnings_match_placeholders_of_nested_directives :
    let t : Text := "t".toList
    let a : Text := "a".toList
    let loader := Loader.ofTexts [(a, "x<?include a?>\n<?include q?>".toList)]
    ∃ d r, scanTemplate "<?include a?>\n<?include b?>".toList t = .ok d ∧
      (resolve ⟨[], []⟩ loader d none).result = .ok r ∧
      r.warnings = [⟨a, 1, a, .includeCycle⟩, ⟨a, 2, "q".toList, .includeNotFound⟩,
        ⟨t, 2, "b".toList, .includeNotFound⟩] ∧
      r.document.segments.filter Segment.isEmptyText =
        [⟨.literal [], a, 1⟩, ⟨.literal [], a, 2⟩, ⟨.literal [], t, 2⟩] := by
  intro t a loader
  let tree : FileTree := ⟨[], []⟩
  let q : Text := "q".toList
  let b : Text := "b".toList
  let file : Loaded := ⟨"x<?include a?>\n<?include q?>".toList, a⟩
  let x : Segment := ⟨.literal "x".toList, a, 1⟩
  let y : Segment := ⟨.literal "\n".toList, a, 1⟩
  let z : Segment := ⟨.literal "\n".toList, t, 1⟩
  let d : Document := ⟨t, [⟨.directive a, t, 1⟩, z, ⟨.directive b, t, 2⟩],
    "<?include a?>\n<?include b?>".toList⟩
  have hscan : scanTemplate d.source t = .ok d := eq_ok_of_toOption (by decide +kernel)
  have hchild : scanTemplate file.text file.filename = .ok
      ⟨a, [x, ⟨.directive a, a, 1⟩, y, ⟨.directive q, a, 2⟩], file.text⟩ :=
    eq_ok_of_toOption (by decide +kernel)
  have hfile : loader.Finds tree a file [a] := ⟨rfl, by cbv⟩
  let inner : List Fate :=
    [.kept x, .leftOut ⟨.directive a, a, 1⟩ ⟨a, 1, a, .includeCycle⟩, .kept y,
      .leftOut ⟨.directive q, a, 2⟩ ⟨a, 2, q, .includeNotFound⟩]
  have hinner : splice tree loader 1 [[a]] a [x, ⟨.directive a, a, 1⟩, y, ⟨.directive q, a, 2⟩] =
      Fate.outcome inner none :=
    splice_cons_of_part (spliceSegment_of_kept rfl) <|
      splice_cons_of_part (spliceSegment_of_cyclic rfl hfile (by decide)) <|
        splice_cons_of_part (spliceSegment_of_kept rfl) <|
          splice_cons_of_part (spliceSegment_of_missing rfl rfl) rfl
  let outer : List Fate := [.spliced ⟨.directive a, t, 1⟩ file [a] inner, .kept z,
    .leftOut ⟨.directive b, t, 2⟩ ⟨t, 2, b, .includeNotFound⟩]
  have hpart : spliceSegment tree loader (splice tree loader 1) [] t ⟨.directive a, t, 1⟩ =
      (Fate.spliced ⟨.directive a, t, 1⟩ file [a] inner).part none := by
    rw [spliceSegment_of_scanned rfl hfile (by decide) hchild, hinner]
    rfl
  have houter : splice tree loader 2 [] t d.segments = Fate.outcome outer none :=
    splice_cons_of_part hpart <| splice_cons_of_part (spliceSegment_of_kept rfl) <|
      splice_cons_of_part (spliceSegment_of_missing rfl rfl) rfl
  let r : Resolved := (Fate.outcome outer none).resolved d
  have hr : (resolve tree loader d none).result = .ok r := by
    rw [resolve_eq_of_splice rfl houter]
    rfl
  exact ⟨d, r, hscan, hr, rfl, (warnings_match_placeholders hscan hr).1⟩

end Stencil
