import Mathlib
import Stencil.Proofs.Include.Fate
import Stencil.Proofs.Scan.Spelling

/-!
# Longer search paths

Of all places that have a file under a name the first one counts. A directory that is searched after
all others can therefore only give files that were not found before, and a loader that finds more
makes no difference to a document for which nothing was missing. More precisely, nothing changes as
long as every file that was missing is missing still.

* `splice_eq_of_extends`: a loader that finds more, where what was missing is missing still.
* `longer_search_path_is_conservative`: directories searched after those that there were.
-/

namespace Stencil

variable {tree : FileTree} {loader more : Loader} {chain : List Location} {name : Text}
  {s : Segment} {ss : List Segment}

/-! ## Loaders that find more -/

/-- What a loader gives, and every fault but that of a file that is not found, is what `more` gives
as well; and it takes as many files to be different. -/
structure Loader.Extends (more loader : Loader) : Prop where
  load_eq : ∀ path, (∀ message, loader.load path ≠ .error (.notFound message)) →
    more.load path = loader.load path
  size_eq : more.size = loader.size

/-- Every file that is said to be missing is missing for a loader. -/
def Loader.Lacks (loader : Loader) (warnings : List IncludeWarning) : Prop :=
  ∀ w ∈ warnings, w.code = .includeNotFound →
    ∃ message, loader.load w.path = .error (.notFound message)

theorem Loader.lacks_of_not_missing {warnings : List IncludeWarning}
    (h : ∀ w ∈ warnings, w.code ≠ .includeNotFound) : loader.Lacks warnings :=
  fun w hw hcode => absurd hcode (h w hw)

theorem Loader.Lacks.of_subset {warnings warnings' : List IncludeWarning}
    (h : loader.Lacks warnings) (hsub : warnings' ⊆ warnings) : loader.Lacks warnings' :=
  fun w hw => h w (hsub hw)

theorem Loader.Extends.load_of_ok {path : Text} {file : Loaded} (hext : more.Extends loader)
    (h : loader.load path = .ok file) : more.load path = .ok file := by
  rw [hext.load_eq path (by simp [h]), h]

theorem Loader.Extends.finds {path : Text} {file : Loaded} {identity : Location}
    (hext : more.Extends loader) (h : loader.Finds tree path file identity) :
    more.Finds tree path file identity :=
  ⟨hext.load_of_ok h.load_eq, h.identity_eq⟩

/-! ## Splicing with a loader that finds more -/

namespace Spliced

variable {a b c : Spliced}

theorem subset_warnings_append (a b : Spliced) : a.warnings ⊆ (a.append b).warnings := by
  intro w hw
  rw [append]
  split
  · exact hw
  · exact List.mem_append_left _ hw

/-- What comes second matters only if there was no fault before. -/
theorem append_congr (h : b.warnings ⊆ (a.append b).warnings → c = b) :
    a.append c = a.append b := by
  cases hfault : a.fault with
  | some fault => simp [append, hfault]
  | none =>
    rw [h]
    intro w hw
    simp [append, hfault, hw]

end Spliced

/-- What takes the place of a segment, if it does so in the files that are included. -/
theorem spliceSegment_eq_of_extends (hext : more.Extends loader) {inner inner' : Splicer}
    (hlacks : more.Lacks (spliceSegment tree loader inner chain name s).warnings)
    (hinner : ∀ chain name ss, more.Lacks (inner chain name ss).warnings →
      inner' chain name ss = inner chain name ss) :
    spliceSegment tree more inner' chain name s =
      spliceSegment tree loader inner chain name s := by
  cases meets tree loader chain s with
  | kept hs => rw [spliceSegment_of_kept hs, spliceSegment_of_kept hs]
  | missing hs hload =>
    rw [spliceSegment_of_missing hs hload] at hlacks ⊢
    obtain ⟨message, hmissing⟩ := hlacks _ List.mem_cons_self rfl
    exact spliceSegment_of_missing hs hmissing
  | unloaded hs hload hfound =>
    have hmore := hext.load_eq _ (by rw [hload]; simpa using hfound)
    rw [spliceSegment_of_unloaded hs hload hfound,
      spliceSegment_of_unloaded hs (hmore.trans hload) hfound]
  | unnamed hs hload hreal =>
    rw [spliceSegment_of_unnamed hs hload hreal,
      spliceSegment_of_unnamed hs (hext.load_of_ok hload) hreal]
  | cyclic hs hfile hmem =>
    rw [spliceSegment_of_cyclic hs hfile hmem,
      spliceSegment_of_cyclic hs (hext.finds hfile) hmem]
  | unscanned hs hfile hnot hscan =>
    rw [spliceSegment_of_unscanned hs hfile hnot hscan,
      spliceSegment_of_unscanned hs (hext.finds hfile) hnot hscan]
  | scanned hs hfile hnot hscan =>
    rw [spliceSegment_of_scanned hs hfile hnot hscan] at hlacks ⊢
    rw [spliceSegment_of_scanned hs (hext.finds hfile) hnot hscan, hinner _ _ _ hlacks]

/-- **A loader that finds more makes no difference** as long as it does not find a file that was
missing. -/
theorem splice_eq_of_extends (hext : more.Extends loader) {depth : Nat}
    (hlacks : more.Lacks (splice tree loader depth chain name ss).warnings) :
    splice tree more depth chain name ss = splice tree loader depth chain name ss := by
  induction depth generalizing chain name ss with
  | zero => rfl
  | succ depth ihDepth =>
    induction ss with
    | nil => rfl
    | cons s ss ih =>
      rw [splice_cons] at hlacks
      have hpart := spliceSegment_eq_of_extends hext
        (hlacks.of_subset (Spliced.subset_warnings_append _ _)) fun _ _ _ => ihDepth
      rw [splice_cons, splice_cons, hpart]
      exact Spliced.append_congr fun hsub => ih (hlacks.of_subset hsub)

theorem resolve_eq_of_extends {d : Document} {origin : Option Text} (hext : more.Extends loader)
    (hlacks : more.Lacks (resolve tree loader d origin).warnings) :
    resolve tree more d origin = resolve tree loader d origin := by
  cases hchain : originChain tree origin with
  | error e => rw [resolve_eq, resolve_eq, hchain]
  | ok chain =>
    rw [resolve_eq_of_splice hchain rfl] at hlacks
    rw [resolve_eq_of_splice hchain rfl, resolve_eq_of_splice hchain rfl, hext.size_eq,
      splice_eq_of_extends hext hlacks]

/-- The warnings of a resolved document are those given on the way. -/
theorem warnings_of_resolve {d : Document} {origin : Option Text} {r : Resolved}
    (h : (resolve tree loader d origin).result = .ok r) :
    (resolve tree loader d origin).warnings = r.warnings := by
  rw [resolve_eq] at h ⊢
  cases hchain : originChain tree origin with
  | error e =>
    rw [hchain] at h
    cases h
  | ok chain =>
    rw [hchain] at h
    obtain ⟨-, rfl⟩ := Spliced.result_eq_ok_iff.mp h
    rfl

/-! ## Searching more directories -/

namespace SearchPath

/-- Places behind the first file, or behind a place where the search fails, are not looked at. -/
theorem firstFile?_append_of_ne {ps qs : List Path} (h : firstFile? tree ps ≠ .ok none) :
    firstFile? tree (ps ++ qs) = firstFile? tree ps := by
  induction ps with
  | nil => exact absurd rfl h
  | cons p ps ih =>
    rw [List.cons_append]
    unfold firstFile? at h ⊢
    cases hp : tree.isFile p.text with
    | error fault => rfl
    | ok here =>
      rw [hp] at h
      cases here with
      | true => rfl
      | false => exact ih h

variable {directories others : List Text} {encoding : Text} {current : Bool}

/-- A name is looked for where it was looked for before, and then perhaps in other places. -/
theorem exists_candidates_append (directories others : List Text) (encoding : Text)
    (current : Bool) (name : Text) :
    ∃ places, (new (directories ++ others) encoding current).candidates name =
      (new directories encoding current).candidates name ++ places := by
  by_cases habsolute : (Path.ofText name).isAbsolute = true
  · refine ⟨[], ?_⟩
    simp only [candidates, if_pos habsolute, List.append_nil]
  · refine ⟨(others.map Path.ofText).map (·.join (Path.ofText name)), ?_⟩
    simp only [candidates, if_neg habsolute, new, List.map_append, List.append_assoc]

theorem find?_append_of_ne (h : (new directories encoding current).find? tree name ≠ .ok none) :
    (new (directories ++ others) encoding current).find? tree name =
      (new directories encoding current).find? tree name := by
  obtain ⟨places, hplaces⟩ :=
    exists_candidates_append directories others encoding current name
  rw [find?, hplaces]
  exact firstFile?_append_of_ne h

/-- What is loaded is what is found. -/
theorem load_of_ne_nil (search : SearchPath) (tree : FileTree) (hname : name ≠ []) :
    search.load tree name =
      match search.find? tree name with
      | .error fault => .error (.file fault)
      | .ok none => .error (.notFound (search.notFoundMessage name))
      | .ok (some p) =>
        return ⟨← (tree.readText p.text search.encoding).mapError .file, p.text⟩ := by
  rw [load, if_neg (by simpa using hname)]
  cases search.find? tree name with
  | error fault => rfl
  | ok found => cases found <;> rfl

theorem load_append_of_ne (h : ∀ message,
      (new directories encoding current).load tree name ≠ .error (.notFound message)) :
    (new (directories ++ others) encoding current).load tree name =
      (new directories encoding current).load tree name := by
  by_cases hname : name = []
  · subst hname
    exact absurd rfl (h _)
  · have hfind : (new directories encoding current).find? tree name ≠ .ok none := by
      intro hnone
      rw [load_of_ne_nil _ _ hname, hnone] at h
      exact h _ rfl
    rw [load_of_ne_nil _ _ hname, load_of_ne_nil _ _ hname, find?_append_of_ne hfind]
    cases hfound : (new directories encoding current).find? tree name with
    | error fault => rfl
    | ok found =>
      cases found with
      | none => exact absurd hfound hfind
      | some p => rfl

theorem loader_append_extends (tree : FileTree) (directories others : List Text)
    (encoding : Text) (current : Bool) :
    ((new (directories ++ others) encoding current).loader tree).Extends
      ((new directories encoding current).loader tree) where
  load_eq _ h := load_append_of_ne h
  size_eq := rfl

end SearchPath

/-- **Searching more directories changes nothing that was complete.** Let directories be searched
after all those that were searched before. A document that is resolved without a missing file is
resolved to the same segments, warnings and sources; and so is, with whatever ends the resolution,
every document whose missing files are missing still. A name that led to a file leads to the same
file, and it is loaded as before unless it was not found. -/
theorem longer_search_path_is_conservative (tree : FileTree) (directories others : List Text)
    (encoding : Text) (current : Bool) :
    let short := SearchPath.new directories encoding current
    let long := SearchPath.new (directories ++ others) encoding current
    (∀ d origin r, (resolve tree (short.loader tree) d origin).result = .ok r →
      (∀ w ∈ r.warnings, w.code ≠ .includeNotFound) →
      resolve tree (long.loader tree) d origin = resolve tree (short.loader tree) d origin) ∧
    (∀ d origin, (long.loader tree).Lacks (resolve tree (short.loader tree) d origin).warnings →
      resolve tree (long.loader tree) d origin = resolve tree (short.loader tree) d origin) ∧
    (∀ name p, short.find? tree name = .ok (some p) → long.find? tree name = .ok (some p)) ∧
    ∀ name, (∀ message, short.load tree name ≠ .error (.notFound message)) →
      long.load tree name = short.load tree name := by
  intro short long
  have hext : (long.loader tree).Extends (short.loader tree) :=
    SearchPath.loader_append_extends tree directories others encoding current
  refine ⟨fun d origin r hr hnone => ?_, fun d origin => resolve_eq_of_extends hext,
    fun name p hfound => ?_, hext.load_eq⟩
  · apply resolve_eq_of_extends hext
    rw [warnings_of_resolve hr]
    exact Loader.lacks_of_not_missing hnone
  · have hfind : long.find? tree name = short.find? tree name := by
      apply SearchPath.find?_append_of_ne
      intro hnone
      cases hfound.symm.trans hnone
    rw [hfind, hfound]

/-- Two directories with a file under the same name. -/
def pairedTree : FileTree where
  nodes :=
    [(["w".toList], .directory),
      (["w".toList, "p".toList], .directory), (["w".toList, "q".toList], .directory),
      (["w".toList, "p".toList, "f".toList], .file [120]),
      (["w".toList, "q".toList, "f".toList], .file [121])]
  current := ["w".toList]

/-- The file of the first directory stays the one that is included. -/
theorem longer_search_path_is_conservative_of_pair :
    let long := SearchPath.new ["p".toList, "q".toList] "utf-8".toList true
    ∃ d r, scanTemplate "<?include f?>".toList "t".toList = .ok d ∧
      (resolve pairedTree (long.loader pairedTree) d none).result = .ok r ∧
      r.document.segments = [⟨.literal "x".toList, "p/f".toList, 1⟩] ∧ r.warnings = [] ∧
      long.load pairedTree "f".toList = .ok ⟨"x".toList, "p/f".toList⟩ := by
  intro long
  let short := SearchPath.new ["p".toList] "utf-8".toList true
  let directive : Segment := ⟨.directive "f".toList, "t".toList, 1⟩
  let d : Document := ⟨"t".toList, [directive], "<?include f?>".toList⟩
  let file : Loaded := ⟨"x".toList, "p/f".toList⟩
  let x : Segment := ⟨.literal file.text, file.filename, 1⟩
  have hscan : scanTemplate d.source d.name = .ok d := eq_ok_of_toOption (by decide +kernel)
  have hchild : scanTemplate file.text file.filename = .ok ⟨file.filename, [x], file.text⟩ :=
    eq_ok_of_toOption (by decide +kernel)
  have hfile : (short.loader pairedTree).Finds pairedTree "f".toList file
      ["w".toList, "p".toList, "f".toList] := ⟨by cbv, by cbv⟩
  have hpart : spliceSegment pairedTree (short.loader pairedTree)
      (splice pairedTree (short.loader pairedTree) 5) [] d.name directive =
        (Fate.spliced directive file ["w".toList, "p".toList, "f".toList] [.kept x]).part none := by
    rw [spliceSegment_of_scanned rfl hfile (by decide) hchild]
    rfl
  let r : Resolved := ⟨⟨d.name, [x], d.source⟩, [],
    [(d.name, d.source), (file.filename, file.text)]⟩
  have hresult : (resolve pairedTree (short.loader pairedTree) d none).result = .ok r := by
    have hsplice : splice pairedTree (short.loader pairedTree) 6 [] d.name d.segments =
        Fate.outcome [.spliced directive file ["w".toList, "p".toList, "f".toList] [.kept x]]
          none :=
      splice_cons_of_part hpart rfl
    rw [resolve_eq_of_splice (x := Fate.outcome _ none) rfl hsplice]
    rfl
  obtain ⟨hsame, -, -, hload⟩ := longer_search_path_is_conservative pairedTree ["p".toList]
    ["q".toList] "utf-8".toList true
  refine ⟨d, r, hscan, ?_, rfl, rfl, ?_⟩
  · exact (congrArg Resolution.result (hsame d none r hresult (by simp [r]))).trans hresult
  · refine (hload "f".toList ?_).trans hfile.load_eq
    intro message hmessage
    cases hfile.load_eq.symm.trans hmessage

end Stencil
