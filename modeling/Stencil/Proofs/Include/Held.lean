import Mathlib
import Stencil.Proofs.Include.Sources
import Stencil.Proofs.Text.Lines

/-!
# Cycles among texts that a loader holds

A loader that holds the texts itself knows them by their keys. What is being included is remembered
by real paths all the same, as if the keys were paths on disk. Two keys that are written differently
but have one real path, such as `a` and `./a`, therefore count as one file: the second is cut off as
a cycle while the first is being included, although their texts have nothing to do with each other.
Keys that are plain paths have different real paths as long as there are no links on disk; of such
keys none is cut off but the one that is being included.

* `Resolves.under`: the keys being included, beside the chain of their real paths.
* `held_texts_are_cut_by_real_path`: which directives are cut off.
* `not_held_texts_are_cut_by_key`: a key that is cut off although it is not being included.
-/

namespace Stencil

variable {tree : FileTree} {loader : Loader} {chain : List Location} {name : Text}
  {ss : List Segment} {fates : List Fate}

/-! ## Names along a chain -/

/-- Fates of the segments of one file in a tree of fates: the names of the files that are being
included there, the last one first, the name of the file, and the fates. -/
inductive Fate.Under : List Text → Text → List Fate → List Text → Text → List Fate → Prop where
  | here {held : List Text} {name : Text} {fates : List Fate} :
      Under held name fates held name fates
  | inside {held k : List Text} {name n : Text} {fates inner fs : List Fate} {s : Segment}
      {file : Loaded} {identity : Location} (h : spliced s file identity inner ∈ fates)
      (hunder : Under (file.filename :: held) file.filename inner k n fs) :
      Under held name fates k n fs

/-- Where nothing goes wrong, nothing goes wrong in the files that are included. -/
theorem Resolves.inner (h : Resolves tree loader chain name ss fates none) {s : Segment}
    {file : Loaded} {identity : Location} {inner : List Fate}
    (hmem : .spliced s file identity inner ∈ fates) :
    (∃ path, loader.Finds tree path file identity) ∧
      Resolves tree loader (identity :: chain) file.filename file.segments inner none := by
  generalize hfault : none = fault at h
  induction h with
  | nil => cases hmem
  | kept _ _ ih | missing _ _ _ ih | cyclic _ _ _ _ ih =>
    rcases List.mem_cons.mp hmem with heq | hmem
    · cases heq
    · exact ih hmem hfault
  | @spliced _ _ path _ _ _ _ _ _ _ _ _ hfile _ hscan hinner _ _ ih =>
    rcases List.mem_cons.mp hmem with heq | hmem
    · cases heq
      subst hfault
      obtain ⟨hname, hsegments⟩ := Loaded.segments_of_scanTemplate hscan
      exact ⟨⟨path, hfile⟩, hname ▸ hsegments ▸ hinner⟩
    · exact ih hmem hfault
  | stopped | unscanned | unnamed | unloaded => cases hfault

/-- The names of the files being included, one by one, beside their real paths. -/
def Loader.Names (loader : Loader) (tree : FileTree) (held : List Text) (chain : List Location) :
    Prop :=
  List.Forall₂ (fun key place => ∃ path text, loader.Finds tree path ⟨text, key⟩ place) held chain

/-- **At every level the chain is that of the files being included there.** -/
theorem Resolves.under (h : Resolves tree loader chain name ss fates none) {held k : List Text}
    {n : Text} {fs : List Fate} (hunder : Fate.Under held name fates k n fs)
    (hnames : loader.Names tree held chain) :
    ∃ c ss', Resolves tree loader c n ss' fs none ∧ loader.Names tree k c := by
  induction hunder generalizing chain ss with
  | here => exact ⟨chain, ss, h, hnames⟩
  | @inside _ _ _ _ _ _ _ _ file _ hmem _ ih =>
    obtain ⟨⟨path, hfile⟩, hinner⟩ := h.inner hmem
    exact ih hinner (.cons ⟨path, file.text, hfile⟩ hnames)

/-- What is on the chain is the real path of a file that is being included. -/
theorem Loader.Names.mem_iff {held : List Text} (h : loader.Names tree held chain)
    (place : Location) : place ∈ chain ↔ ∃ key ∈ held, tree.realPath key = .ok place := by
  induction h with
  | nil => simp
  | @cons key other held chain hfile _ ih =>
    obtain ⟨_, _, hfile⟩ := hfile
    have hother : tree.realPath key = .ok other := hfile.identity_eq
    simp [ih, hother, eq_comm]

theorem Loader.Names.exists_of_mem {held : List Text} (h : loader.Names tree held chain)
    {key : Text} (hkey : key ∈ held) :
    ∃ place ∈ chain, ∃ path text, loader.Finds tree path ⟨text, key⟩ place := by
  induction h with
  | nil => cases hkey
  | cons hfile _ ih =>
    rcases List.mem_cons.mp hkey with rfl | hkey
    · exact ⟨_, List.mem_cons_self, hfile⟩
    · obtain ⟨place, hplace, hfile⟩ := ih hkey
      exact ⟨place, List.mem_cons_of_mem _ hplace, hfile⟩

/-! ## Plain paths -/

namespace FileTree

/-- Nothing in the tree is a link. -/
def LinkFree (tree : FileTree) : Prop := ∀ l target, tree.get? l ≠ some (.link target)

/-- A name that leads down by one step. -/
def IsPlainName (name : Text) : Prop :=
  Path.isKept name = true ∧ name ≠ ['.', '.'] ∧ '\x00' ∉ name

/-- A path through names that lead down, one by one, from where it starts. -/
def IsPlain (path : Text) : Prop := ∀ name ∈ Text.split '/' path, IsPlainName name

theorem realWalk_of_plain (htree : tree.LinkFree) (n : Nat) (links : List (Spot × Option Spot))
    (s : Spot) {names : List Text} (hnames : ∀ name ∈ names, IsPlainName name) :
    tree.realWalk n links s names =
      .ok ⟨{ s with location := s.location ++ names }, links, false⟩ := by
  induction names generalizing s with
  | nil => simp [realWalk]
  | cons name names ih =>
    obtain ⟨hkept, hup, hnul⟩ := hnames name List.mem_cons_self
    have hrest := ih { s with location := s.location ++ [name] } fun name' hname' =>
      hnames name' (List.mem_cons_of_mem name hname')
    rw [realWalk]
    simp only [hkept, hup, hnul, hrest, Bool.not_true, Bool.false_eq_true, if_false,
      List.contains_eq_mem, decide_false, List.append_assoc, List.singleton_append]
    split
    · rename_i target hlink
      exact absurd hlink (htree _ target)
    · rfl

/-- The real path of a plain path is the path itself, seen from the current directory. -/
theorem realPath_of_plain (htree : tree.LinkFree) {path : Text} (h : IsPlain path) :
    tree.realPath path = .ok (tree.current ++ Text.split '/' path) := by
  have hhead : path.head? ≠ some '/' := by
    intro hslash
    obtain ⟨rest, rfl⟩ := List.head?_eq_some_iff.mp hslash
    have hempty := (h [] (by rw [Text.split_cons_self]; exact List.mem_cons_self)).1
    cases hempty
  rw [realPath, Spot.start, if_neg hhead]
  simp only [realWalk_of_plain htree _ _ _ h]
  rfl

/-- **Plain paths have different real paths.** -/
theorem eq_of_realPath_eq (htree : tree.LinkFree) {path path' : Text} (h : IsPlain path)
    (h' : IsPlain path') (heq : tree.realPath path = tree.realPath path') : path = path' := by
  rw [realPath_of_plain htree h, realPath_of_plain htree h'] at heq
  have hsplit := List.append_cancel_left (Except.ok.inj heq)
  rw [← Text.intercalate_split '/' path, hsplit, Text.intercalate_split]

end FileTree

/-! ## Texts held by the loader -/

theorem Loader.finds_ofTexts_of_lookup {texts : List (Text × Text)} {key text : Text}
    {place : Location} (h : texts.lookup key = some text)
    (hreal : tree.realPath key = .ok place) :
    (ofTexts texts).Finds tree key ⟨text, key⟩ place where
  load_eq := by simp only [ofTexts, h]
  identity_eq := hreal

/-- A directive whose text is held has met its fate, so that its key has a real path. -/
theorem Fate.Fits.exists_realPath {texts : List (Text × Text)} {f : Fate}
    (h : f.Fits tree (.ofTexts texts) chain name) {key text : Text}
    (hkey : f.before.path? = some key) (htext : texts.lookup key = some text) :
    ∃ place, tree.realPath key = .ok place := by
  have hload : (Loader.ofTexts texts).load key = .ok ⟨text, key⟩ := by
    simp only [Loader.ofTexts, htext]
  have hreal {path : Text} {file : Loaded} {identity : Location} (hs : f.before.path? = some path)
      (hfile : (Loader.ofTexts texts).Finds tree path file identity) :
      tree.realPath key = .ok identity := by
    obtain rfl := Option.some.inj (hs.symm.trans hkey)
    obtain rfl := Except.ok.inj (hload.symm.trans hfile.load_eq)
    exact hfile.identity_eq
  cases h with
  | kept hs => cases hs.symm.trans hkey
  | missing hs hmissing =>
    obtain rfl := Option.some.inj (hs.symm.trans hkey)
    cases hload.symm.trans hmissing
  | cyclic hs hfile => exact ⟨_, hreal hs hfile⟩
  | spliced hs hfile => exact ⟨_, hreal hs hfile⟩

/-- A directive that is not reported as a cycle although its text is found makes way for that
text. -/
theorem Resolves.exists_spliced (h : Resolves tree loader chain name ss fates none) {f : Fate}
    (hf : f ∈ fates) {path : Text} {file : Loaded} {identity : Location}
    (hpath : f.before.path? = some path) (hfile : loader.Finds tree path file identity)
    (hnot : identity ∉ chain) :
    ∃ inner, f = .spliced f.before file identity inner ∧
      inner.map Fate.before = file.segments := by
  obtain ⟨inner, hspliced⟩ := ((h.fits hf).of_finds hpath hfile).2 hnot
  rw [hspliced] at hf
  exact ⟨inner, hspliced, (h.inner hf).2.map_before⟩

/-- **Texts held by the loader are cut off by real paths.** When a document that was read from no
file is resolved, every directive, at whatever level, meets its fate. One that names a text held by
the loader is reported as a cycle exactly if its key has the same real path as that of a text which
is being included there; otherwise the text takes its place. Hence a text is never put in itself;
and where no links are met and the keys are plain, nothing else is cut off. -/
theorem held_texts_are_cut_by_real_path {tree : FileTree} {texts : List (Text × Text)}
    {d : Document} {r : Resolved} (h : (resolve tree (.ofTexts texts) d none).result = .ok r) :
    ∃ fates, fates.map Fate.before = d.segments ∧ r = (Fate.outcome fates none).resolved d ∧
      ∀ held name fs, Fate.Under [] d.name fates held name fs →
        (∀ other ∈ held, ∃ text, texts.lookup other = some text) ∧
        ∀ f ∈ fs, ∀ key text, f.before.path? = some key → texts.lookup key = some text →
          let cut := f.warning? = some ⟨name, f.before.line, key, .includeCycle⟩
          (cut ↔ ∃ other ∈ held, tree.realPath other = tree.realPath key) ∧
          (¬ cut → ∃ place inner, f = .spliced f.before ⟨text, key⟩ place inner ∧
            inner.map Fate.before = (⟨text, key⟩ : Loaded).segments) ∧
          (key ∈ held → cut) ∧
          (tree.LinkFree → FileTree.IsPlain key → (∀ other ∈ held, FileTree.IsPlain other) →
            (cut ↔ key ∈ held)) := by
  obtain ⟨chain, fates, hchain, hresolves, rfl⟩ := exists_resolves_of_resolve h
  cases hchain
  refine ⟨fates, hresolves.map_before, rfl, fun held name fs hunder => ?_⟩
  obtain ⟨c, ss, hinner, hnames⟩ := hresolves.under hunder .nil
  refine ⟨fun other hother => ?_, fun f hf key text hkey htext => ?_⟩
  · obtain ⟨place, -, path, text, hfile⟩ := hnames.exists_of_mem hother
    exact ⟨text, Loader.lookup_of_ofTexts hfile.load_eq⟩
  intro cut
  obtain ⟨place, hplace⟩ := (hinner.fits hf).exists_realPath hkey htext
  have hfile := Loader.finds_ofTexts_of_lookup htext hplace
  have hcut : cut ↔ ∃ other ∈ held, tree.realPath other = tree.realPath key := by
    rw [hplace, ← hnames.mem_iff place]
    exact ((hinner.fits hf).of_finds hkey hfile).1
  have hheld (hmem : key ∈ held) : cut := hcut.mpr ⟨key, hmem, rfl⟩
  refine ⟨hcut, fun hnot => ⟨place, ?_⟩, hheld, fun htree hplain hothers => ⟨?_, hheld⟩⟩
  · have hmem : place ∉ c := by
      intro hmem
      obtain ⟨other, hother, hreal⟩ := (hnames.mem_iff place).mp hmem
      exact hnot (hcut.mpr ⟨other, hother, hreal.trans hplace.symm⟩)
    exact hinner.exists_spliced hf hkey hfile hmem
  · intro hwarned
    obtain ⟨other, hother, hreal⟩ := hcut.mp hwarned
    obtain rfl := FileTree.eq_of_realPath_eq htree (hothers other hother) hplain hreal
    exact hother

/-- A document includes `a`, and the text of `a` includes a key that has the same real path. -/
theorem resolve_of_shared_path {key text : Text} {file : Loaded} (others : List (Text × Text))
    (hscan : scanTemplate text "a".toList =
      .ok ⟨"a".toList, [⟨.directive key, "a".toList, 1⟩], text⟩)
    (hkey : (Loader.ofTexts (("a".toList, text) :: others)).Finds ⟨[], []⟩ key file ["a".toList]) :
    let a : Text := "a".toList
    let t : Text := "t".toList
    let d : Document := ⟨t, [⟨.directive a, t, 1⟩], "<?include a?>".toList⟩
    let w : IncludeWarning := ⟨a, 1, key, .includeCycle⟩
    let loader := Loader.ofTexts ((a, text) :: others)
    scanTemplate d.source t = .ok d ∧
      Resolves ⟨[], []⟩ loader [] t d.segments
        [.spliced ⟨.directive a, t, 1⟩ ⟨text, a⟩ [a] [.leftOut ⟨.directive key, a, 1⟩ w]] none ∧
      (resolve ⟨[], []⟩ loader d none).result =
        .ok ⟨⟨t, [w.placeholder], d.source⟩, [w], [(t, d.source), (a, text)]⟩ := by
  intro a t d w loader
  have ha : loader.Finds ⟨[], []⟩ a ⟨text, a⟩ [a] := ⟨rfl, by cbv⟩
  have hpart : spliceSegment ⟨[], []⟩ loader (splice ⟨[], []⟩ loader (others.length + 1)) [] t
      ⟨.directive a, t, 1⟩ = (Fate.spliced ⟨.directive a, t, 1⟩ ⟨text, a⟩ [a]
        [.leftOut ⟨.directive key, a, 1⟩ w]).part none := by
    rw [spliceSegment_of_scanned rfl ha List.not_mem_nil hscan, splice_cons,
      spliceSegment_of_cyclic rfl hkey List.mem_cons_self]
    rfl
  refine ⟨eq_ok_of_toOption (by decide +kernel), ?_, ?_⟩
  · exact .spliced rfl ha List.not_mem_nil hscan
      (.cyclic rfl hkey List.mem_cons_self .nil) .nil
  · have hsplice : splice ⟨[], []⟩ loader (others.length + 2) [] t d.segments = Fate.outcome
        [.spliced ⟨.directive a, t, 1⟩ ⟨text, a⟩ [a] [.leftOut ⟨.directive key, a, 1⟩ w]] none :=
      splice_cons_of_part hpart rfl
    rw [resolve_eq_of_splice (x := Fate.outcome _ none) rfl hsplice]
    rfl

/-- A text that includes itself is cut off: its key is plain, and it is being included. -/
theorem held_texts_are_cut_by_real_path_of_self :
    let a : Text := "a".toList
    let loader := Loader.ofTexts [(a, "<?include a?>".toList)]
    ∃ d r fates f place g, scanTemplate "<?include a?>".toList "t".toList = .ok d ∧
      (resolve ⟨[], []⟩ loader d none).result = .ok r ∧
      r = (Fate.outcome fates none).resolved d ∧ fates = [f] ∧
      f = .spliced f.before ⟨"<?include a?>".toList, a⟩ place [g] ∧
      g.warning? = some ⟨a, 1, a, .includeCycle⟩ := by
  intro a loader
  have hscan : scanTemplate "<?include a?>".toList a =
      .ok ⟨a, [⟨.directive a, a, 1⟩], "<?include a?>".toList⟩ :=
    eq_ok_of_toOption (by decide +kernel)
  obtain ⟨hd, -, hr⟩ := resolve_of_shared_path [] hscan ⟨rfl, by cbv⟩
  obtain ⟨fates, hbefore, houtcome, hlevels⟩ := held_texts_are_cut_by_real_path hr
  obtain ⟨f, fates, rfl, hf, hnil⟩ := List.map_eq_cons_iff.mp hbefore
  obtain rfl := List.map_eq_nil_iff.mp hnil
  -- nothing is being included when the document is met, and `a` is in its text
  obtain ⟨hcut, hspliced, -, -⟩ := (hlevels _ _ _ .here).2 f List.mem_cons_self a _ (hf ▸ rfl) rfl
  obtain ⟨place, inner, heq, hinner⟩ := hspliced fun hwarned => by
    obtain ⟨other, hother, -⟩ := hcut.mp hwarned
    cases hother
  have hsegments : (⟨"<?include a?>".toList, a⟩ : Loaded).segments = [⟨.directive a, a, 1⟩] := by
    simp only [Loaded.segments, hscan]
  rw [hsegments] at hinner
  obtain ⟨g, inner, rfl, hg, hnil⟩ := List.map_eq_cons_iff.mp hinner
  obtain rfl := List.map_eq_nil_iff.mp hnil
  have hunder : Fate.Under [] "t".toList [f] [a] a [g] :=
    .inside (List.mem_singleton.mpr heq.symm) .here
  have hwarned := ((hlevels _ _ _ hunder).2 g List.mem_cons_self a _ (hg ▸ rfl) rfl).2.2.1
    List.mem_cons_self
  rw [hg] at hwarned
  exact ⟨_, _, _, f, place, g, hd, hr, houtcome, rfl, heq, hwarned⟩

/-- **A text may be cut off although it is not being included.** The document includes `a`, whose
text includes `./a`. Both keys are in the mapping, and only the first is being included; but they
have the same real path, and the second text is reported as a cycle and left out. -/
theorem not_held_texts_are_cut_by_key :
    let a : Text := "a".toList
    let dotted : Text := "./a".toList
    let texts := [(a, "<?include ./a?>".toList), (dotted, "x".toList)]
    ∃ d r fates inner f, scanTemplate "<?include a?>".toList "t".toList = .ok d ∧
      (resolve ⟨[], []⟩ (.ofTexts texts) d none).result = .ok r ∧
      Resolves ⟨[], []⟩ (.ofTexts texts) [] d.name d.segments fates none ∧
      Fate.Under [] d.name fates [a] a inner ∧ f ∈ inner ∧
      f.before.path? = some dotted ∧ texts.lookup dotted = some "x".toList ∧ dotted ∉ [a] ∧
      f.warning? = some ⟨a, 1, dotted, .includeCycle⟩ ∧
      r.warnings = [⟨a, 1, dotted, .includeCycle⟩] ∧
      r.document.segments = [⟨.literal [], a, 1⟩] := by
  intro a dotted texts
  have hscan : scanTemplate "<?include ./a?>".toList a =
      .ok ⟨a, [⟨.directive dotted, a, 1⟩], "<?include ./a?>".toList⟩ :=
    eq_ok_of_toOption (by decide +kernel)
  have hfile : (Loader.ofTexts texts).Finds ⟨[], []⟩ dotted ⟨"x".toList, dotted⟩ [a] :=
    ⟨rfl, by cbv⟩
  obtain ⟨hd, hresolves, hr⟩ := resolve_of_shared_path [(dotted, "x".toList)] hscan hfile
  exact ⟨_, _, _, _, _, hd, hr, hresolves, .inside List.mem_cons_self .here, List.mem_cons_self,
    rfl, rfl, by decide, rfl, rfl, rfl⟩

end Stencil
