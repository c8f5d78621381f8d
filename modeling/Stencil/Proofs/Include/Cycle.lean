import Mathlib
import Stencil.Proofs.Files.RealPath
import Stencil.Proofs.Include.Chain

/-!
# Cycles on disk

A loader that searches directories gives files of the tree. Each of them stands at one location,
whatever path leads to it, and its real path is this location. There are only so many locations, so
that including files comes to an end; and a directive is cut off as a cycle exactly when its file
stands where a file on the chain stands.

* `cycles_on_disk_are_cut`: resolving ends, and which directives are reported as cycles.
-/

namespace Stencil

variable {tree : FileTree} {chain : List Location} {name path : Text} {file : Loaded}
  {identity : Location}

/-! ## Files that are found -/

/-- A step that goes through has done so in both of its parts. -/
theorem exists_ok_of_bind {ε α β : Type} {x : Except ε α} {k : α → Except ε β} {b : β}
    (h : x >>= k = .ok b) : ∃ a, x = .ok a ∧ k a = .ok b := by
  cases x with
  | error e => cases h
  | ok a => exact ⟨a, rfl, h⟩

namespace SearchPath

variable {search : SearchPath}

/-- What is loaded is the text of the file whose name it bears. -/
theorem readText_of_load (h : search.load tree path = .ok file) :
    tree.readText file.filename search.encoding = .ok file.text := by
  rw [load] at h
  split at h
  · cases h
  obtain ⟨found, -, h⟩ := exists_ok_of_bind h
  cases found with
  | none => cases h
  | some p =>
    obtain ⟨text, htext, h⟩ := exists_ok_of_bind h
    cases h
    cases hread : tree.readText p.text search.encoding with
    | error fault =>
      rw [hread] at htext
      cases htext
    | ok text' =>
      rw [hread] at htext
      cases htext
      rfl

/-- What is loaded is read from a file. -/
theorem exists_readBytes_of_load (h : search.load tree path = .ok file) :
    ∃ bytes, tree.readBytes file.filename = .ok bytes := by
  have hread := readText_of_load h
  rw [FileTree.readText] at hread
  obtain ⟨bytes, hbytes, -⟩ := exists_ok_of_bind hread
  exact ⟨bytes, hbytes⟩

/-- A file that is found stands at its identity. -/
theorem exists_follow_of_finds (h : (search.loader tree).Finds tree path file identity) :
    (∃ bytes, tree.follow false file.filename = .ok (.found identity (.file bytes))) ∧
      identity ∈ tree.nodes.map Prod.fst := by
  obtain ⟨bytes, hbytes⟩ := exists_readBytes_of_load h.load_eq
  obtain ⟨hfollow, hmem⟩ := FileTree.readBytes_place hbytes h.identity_eq
  exact ⟨⟨bytes, hfollow⟩, hmem⟩

end SearchPath

/-! ## Directives that are cut off -/

/-- What becomes of a directive whose file is found. -/
theorem Fate.Fits.of_finds {loader : Loader} {f : Fate} (h : f.Fits tree loader chain name)
    (hpath : f.before.path? = some path) (hfile : loader.Finds tree path file identity) :
    (f.warning? = some ⟨name, f.before.line, path, .includeCycle⟩ ↔ identity ∈ chain) ∧
      (identity ∉ chain → ∃ inner, f = .spliced f.before file identity inner) := by
  cases h with
  | kept hs => cases hs.symm.trans hpath
  | missing hs hload =>
    obtain rfl := Option.some.inj (hs.symm.trans hpath)
    cases hload.symm.trans hfile.load_eq
  | cyclic hs hfile' hmem =>
    obtain rfl := Option.some.inj (hs.symm.trans hpath)
    obtain ⟨-, rfl⟩ := hfile.unique hfile'
    exact ⟨iff_of_true rfl hmem, fun hnot => absurd hmem hnot⟩
  | @spliced _ _ _ _ inner _ hs hfile' hnot =>
    obtain rfl := Option.some.inj (hs.symm.trans hpath)
    obtain ⟨rfl, rfl⟩ := hfile.unique hfile'
    exact ⟨iff_of_false nofun hnot, fun _ => ⟨inner, rfl⟩⟩

/-! ## Resolving with files on disk -/

/-- **Cycles on disk are cut, and nothing else.** With a loader that searches directories, files
never include each other too deep: beyond the number of nodes of the tree the bound on the depth
makes no difference, and what comes out follows `Resolves`, which knows no bound. At every level the
files on the chain are different, and its beginning is the file that the document was read from.
A file that is found stands at its identity, whatever path has led to it. Its directive is reported
as a cycle exactly when it is on the chain; if it is not, it takes the place of the directive, no
matter how often it does so elsewhere. -/
theorem cycles_on_disk_are_cut (tree : FileTree) (search : SearchPath) (d : Document)
    (origin : Option Text) :
    (resolve tree (search.loader tree) d origin).result ≠ .error .tooDeep ∧
    ∀ chain, originChain tree origin = .ok chain →
      ∃ fates fault, Resolves tree (search.loader tree) chain d.name d.segments fates fault ∧
        (∀ depth, tree.size < depth →
          splice tree (search.loader tree) depth chain d.name d.segments =
            Fate.outcome fates fault) ∧
        resolve tree (search.loader tree) d origin =
          ⟨Fate.warningsAll fates, (Fate.outcome fates fault).result d⟩ ∧
        ∀ c name fs, Fate.Level chain d.name fates c name fs →
          c.Nodup ∧ chain <:+ c ∧ c.length ≤ chain.length + tree.size ∧
          ∀ f ∈ fs, ∀ path file identity, f.before.path? = some path →
            (search.loader tree).Finds tree path file identity →
            (∃ bytes, tree.follow false file.filename = .ok (.found identity (.file bytes))) ∧
            (f.warning? = some ⟨name, f.before.line, path, .includeCycle⟩ ↔ identity ∈ c) ∧
            (identity ∉ c → ∃ inner, f = .spliced f.before file identity inner) := by
  let places : Finset Location := (tree.nodes.map Prod.fst).toFinset
  have hplaces : ∀ path file identity, (search.loader tree).Finds tree path file identity →
      identity ∈ places := fun _ _ _ hfile =>
    List.mem_toFinset.mpr (SearchPath.exists_follow_of_finds hfile).2
  have hcard : places.card ≤ tree.size := by
    simpa [FileTree.size] using List.toFinset_card_le (tree.nodes.map Prod.fst)
  have hfewer (chain : List Location) : (places \ chain.toFinset).card ≤ tree.size :=
    (Finset.card_le_card Finset.sdiff_subset).trans hcard
  constructor
  · intro hdeep
    rw [resolve_eq] at hdeep
    cases hchain : originChain tree origin with
    | error e =>
      rw [hchain] at hdeep
      cases hdeep
    | ok chain =>
      rw [hchain] at hdeep
      exact splice_fault_ne_tooDeep hplaces (Nat.lt_succ_of_le (hfewer chain))
        (Spliced.result_eq_error_iff.mp hdeep)
  · intro chain hchain
    obtain ⟨fates, fault, hresolves, hsplice⟩ := exists_resolves_of_found hplaces
    refine ⟨fates, fault, hresolves, fun depth hdepth => hsplice depth ?_, ?_, ?_⟩
    · exact Nat.lt_of_le_of_lt (hfewer chain) hdepth
    · exact resolve_eq_of_splice hchain (hsplice _ (Nat.lt_succ_of_le (hfewer chain)))
    · intro c name fs hlevel
      obtain ⟨hnodup, found, rfl, hfound⟩ :=
        hresolves.nodup_of_level hlevel (nodup_of_originChain hchain)
      obtain ⟨ss, fault', hinner, -⟩ := hresolves.level hlevel
      have hlength : found.length ≤ tree.size := by
        have hsub : found ⊆ tree.nodes.map Prod.fst := by
          intro l hl
          obtain ⟨path, file, hfile⟩ := hfound l hl
          exact (SearchPath.exists_follow_of_finds hfile).2
        simpa [FileTree.size] using (hnodup.of_append_left.subperm hsub).length_le
      refine ⟨hnodup, List.suffix_append found chain, ?_, ?_⟩
      · rw [List.length_append]
        omega
      · intro f hf path file identity hpath hfile
        exact ⟨(SearchPath.exists_follow_of_finds hfile).1,
          (hinner.fits hf).of_finds hpath hfile⟩

/-- A directory with two files and a link from `l` to `a`; `a` includes itself through the link, and
`b` twice. -/
def linkedTree : FileTree where
  nodes :=
    [(["w".toList], .directory), (["w".toList, "a".toList], .file (bytes includes)),
      (["w".toList, "l".toList], .link "a".toList),
      (["w".toList, "b".toList], .file (bytes "x".toList))]
  current := ["w".toList]
where
  includes : Text := "<?include l?><?include b?><?include ./b?>".toList
  bytes (t : Text) : List UInt8 := t.map fun c => UInt8.ofNat c.toNat

/-- The link is cut off, and the other file is put in both places. -/
theorem cycles_on_disk_are_cut_of_link :
    let search := SearchPath.new [] "utf-8".toList true
    let a : Location := ["w".toList, "a".toList]
    let b : Location := ["w".toList, "b".toList]
    ∃ d fates first second third,
      scanTemplate linkedTree.includes "a".toList = .ok d ∧
      originChain linkedTree (some "a".toList) = .ok [a] ∧
      Resolves linkedTree (search.loader linkedTree) [a] d.name d.segments fates none ∧
      fates = [first, second, third] ∧
      first.warning? = some ⟨"a".toList, 1, "l".toList, .includeCycle⟩ ∧
      (∃ inner, second = .spliced second.before ⟨"x".toList, "b".toList⟩ b inner) ∧
      (∃ inner, third = .spliced third.before ⟨"x".toList, "b".toList⟩ b inner) := by
  intro search a b
  let segment (path : String) : Segment := ⟨.directive path.toList, "a".toList, 1⟩
  let d : Document :=
    ⟨"a".toList, [segment "l", segment "b", segment "./b"], linkedTree.includes⟩
  let file : Loaded := ⟨"x".toList, "b".toList⟩
  let x : Segment := ⟨.literal "x".toList, "b".toList, 1⟩
  have hscan : scanTemplate linkedTree.includes "a".toList = .ok d :=
    eq_ok_of_toOption (by decide +kernel)
  have hchild : scanTemplate file.text file.filename = .ok ⟨"b".toList, [x], file.text⟩ :=
    eq_ok_of_toOption (by decide +kernel)
  have hchain : originChain linkedTree (some "a".toList) = .ok [a] := by cbv
  have hlink : (search.loader linkedTree).Finds linkedTree "l".toList
      ⟨linkedTree.includes, "l".toList⟩ a := ⟨by cbv, by cbv⟩
  have hplain : (search.loader linkedTree).Finds linkedTree "b".toList file b :=
    ⟨by cbv, by cbv⟩
  have hdotted : (search.loader linkedTree).Finds linkedTree "./b".toList file b :=
    ⟨by cbv, by cbv⟩
  obtain ⟨fates, fault, hresolves, hsplice, -, hlevels⟩ :=
    (cycles_on_disk_are_cut linkedTree search d (some "a".toList)).2 [a] hchain
  have hcut := (hlevels [a] _ fates .here).2.2.2
  -- Nothing goes wrong, so that each of the three directives meets its fate.
  have hpart {path : String} (hfile : (search.loader linkedTree).Finds linkedTree path.toList
      file b) : spliceSegment linkedTree (search.loader linkedTree)
        (splice linkedTree (search.loader linkedTree) 4) [a] "a".toList (segment path) =
      (Fate.spliced (segment path) file b [.kept x]).part none := by
    rw [spliceSegment_of_scanned rfl hfile (by decide) hchild]
    rfl
  have hthrough : splice linkedTree (search.loader linkedTree) 5 [a] d.name d.segments =
      Fate.outcome [.leftOut (segment "l") ⟨"a".toList, 1, "l".toList, .includeCycle⟩,
        .spliced (segment "b") file b [.kept x], .spliced (segment "./b") file b [.kept x]] none :=
    splice_cons_of_part (spliceSegment_of_cyclic rfl hlink (by decide)) <|
      splice_cons_of_part (hpart hplain) <| splice_cons_of_part (hpart hdotted) rfl
  obtain rfl : fault = none :=
    congrArg Spliced.fault ((hsplice 5 (by decide)).symm.trans hthrough)
  obtain ⟨first, fates, rfl, hfirst, hrest⟩ := List.map_eq_cons_iff.mp hresolves.map_before
  obtain ⟨second, fates, rfl, hsecond, hrest⟩ := List.map_eq_cons_iff.mp hrest
  obtain ⟨third, fates, rfl, hthird, hrest⟩ := List.map_eq_cons_iff.mp hrest
  obtain rfl := List.map_eq_nil_iff.mp hrest
  refine ⟨d, _, first, second, third, hscan, hchain, hresolves, rfl, ?_, ?_, ?_⟩
  · have hwarning := (hcut first (by simp) _ _ _ (hfirst ▸ rfl) hlink).2.1.mpr (by decide)
    rw [hfirst] at hwarning
    exact hwarning
  · exact (hcut second (by simp) _ _ _ (hsecond ▸ rfl) hplain).2.2 (by decide)
  · exact (hcut third (by simp) _ _ _ (hthird ▸ rfl) hdotted).2.2 (by decide)

end Stencil
