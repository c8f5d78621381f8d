import Mathlib.Data.Finset.Card
import Stencil.Proofs.Include.Fate
import Stencil.Proofs.Scan.Spelling

/-!
# Along a chain of includes

A fate *fits* the place where a segment stands when it says what must become of it there: that
depends on the file that the segment leads to, and on whether this is being included already. All
fates that `Resolves` leads to fit, those of the document and, level by level, those of the files
included. A file that is put in place of its directive is not on the chain, so that the files along
a chain are all different, and no chain is longer than there are files to be found.

* `Resolves.fits`, `Resolves.level`: all fates fit, at every level.
* `Resolves.nodup_of_level`: the files along a chain are different.
* `splice_fault_ne_tooDeep`: where only so many files are found, splicing does not go deeper.
-/

namespace Stencil

variable {tree : FileTree} {loader : Loader} {chain : List Location} {name path : Text}
  {s : Segment} {ss : List Segment} {file : Loaded} {identity : Location} {fates : List Fate}
  {fault : Option ResolveFault}

/-! ## Fates that fit -/

/-- The segments of a file; there are none if it cannot be scanned. -/
def Loaded.segments (file : Loaded) : List Segment :=
  match scanTemplate file.text file.filename with
  | .ok child => child.segments
  | .error _ => []

/-- The segments of a file bear its name. -/
theorem Loaded.filename_of_mem_segments (h : s ∈ file.segments) : s.filename = file.filename := by
  rw [segments] at h
  split at h
  · rename_i child hscan
    exact (filename_of_scanTemplate hscan).2 s h
  · cases h

theorem Loaded.segments_of_scanTemplate {child : Document}
    (h : scanTemplate file.text file.filename = .ok child) :
    file.filename = child.name ∧ file.segments = child.segments :=
  ⟨(filename_of_scanTemplate h).1.symm, by rw [segments, h]⟩

theorem Loaded.resolves_of_unscanned {e : CompileError}
    (h : scanTemplate file.text file.filename = .error e) :
    Resolves tree loader chain file.filename file.segments [] none := by
  rw [segments, h]
  exact .nil

/-- A fate is right for a segment of the file `name` while the files of a chain are being
included. -/
inductive Fate.Fits (tree : FileTree) (loader : Loader) (chain : List Location) (name : Text) :
    Fate → Prop where
  | kept {s : Segment} (hs : s.path? = none) : Fits tree loader chain name (.kept s)
  | missing {s : Segment} {path message : Text} (hs : s.path? = some path)
      (hload : loader.load path = .error (.notFound message)) :
      Fits tree loader chain name (.leftOut s ⟨name, s.line, path, .includeNotFound⟩)
  | cyclic {s : Segment} {path : Text} {file : Loaded} {identity : Location}
      (hs : s.path? = some path) (hfile : loader.Finds tree path file identity)
      (hmem : identity ∈ chain) :
      Fits tree loader chain name (.leftOut s ⟨name, s.line, path, .includeCycle⟩)
  | spliced {s : Segment} {path : Text} {file : Loaded} {identity : Location} {inner : List Fate}
      {fault : Option ResolveFault} (hs : s.path? = some path)
      (hfile : loader.Finds tree path file identity) (hnot : identity ∉ chain)
      (hinner : Resolves tree loader (identity :: chain) file.filename file.segments inner fault) :
      Fits tree loader chain name (.spliced s file identity inner)

theorem Resolves.fits (h : Resolves tree loader chain name ss fates fault) {f : Fate}
    (hf : f ∈ fates) : f.Fits tree loader chain name := by
  induction h with
  | nil | unnamed | unloaded => cases hf
  | kept hs _ ih =>
    rcases List.mem_cons.mp hf with rfl | hf
    · exact .kept hs
    · exact ih hf
  | missing hs hload _ ih =>
    rcases List.mem_cons.mp hf with rfl | hf
    · exact .missing hs hload
    · exact ih hf
  | cyclic hs hfile hmem _ ih =>
    rcases List.mem_cons.mp hf with rfl | hf
    · exact .cyclic hs hfile hmem
    · exact ih hf
  | spliced hs hfile hnot hscan hinner _ _ ih =>
    rcases List.mem_cons.mp hf with rfl | hf
    · obtain ⟨hname, hsegments⟩ := Loaded.segments_of_scanTemplate hscan
      exact .spliced hs hfile hnot (hname ▸ hsegments ▸ hinner)
    · exact ih hf
  | stopped hs hfile hnot hscan hinner =>
    obtain rfl := List.mem_singleton.mp hf
    obtain ⟨hname, hsegments⟩ := Loaded.segments_of_scanTemplate hscan
    exact .spliced hs hfile hnot (hname ▸ hsegments ▸ hinner)
  | unscanned hs hfile hnot hscan =>
    obtain rfl := List.mem_singleton.mp hf
    exact .spliced hs hfile hnot (Loaded.resolves_of_unscanned hscan)

theorem Resolves.before_mem (h : Resolves tree loader chain name ss fates fault) {f : Fate}
    (hf : f ∈ fates) : f.before ∈ ss := by
  induction h with
  | nil | unnamed | unloaded => cases hf
  | kept _ _ ih | missing _ _ _ ih | cyclic _ _ _ _ ih | spliced _ _ _ _ _ _ _ ih =>
    rcases List.mem_cons.mp hf with rfl | hf
    · exact List.mem_cons_self
    · exact List.mem_cons_of_mem _ (ih hf)
  | stopped | unscanned =>
    obtain rfl := List.mem_singleton.mp hf
    exact List.mem_cons_self

/-- Where there is no fault, every segment meets its fate. -/
theorem Resolves.map_before (h : Resolves tree loader chain name ss fates none) :
    fates.map Fate.before = ss := by
  generalize hfault : none = fault at h
  induction h with
  | nil => rfl
  | kept _ _ ih | missing _ _ _ ih | cyclic _ _ _ _ ih | spliced _ _ _ _ _ _ _ ih =>
    rw [List.map_cons, ih hfault]
    rfl
  | stopped | unscanned | unnamed | unloaded => cases hfault

/-! ## Levels -/

variable {c : List Location} {n : Text} {fs : List Fate}

/-- At every level the fates are those of the segments of a file, which bear the name of the file;
those of the document, where nothing is being included, may bear other names. -/
theorem Resolves.level (h : Resolves tree loader chain name ss fates fault)
    (hlevel : Fate.Level chain name fates c n fs) :
    ∃ ss' fault', Resolves tree loader c n ss' fs fault' ∧
      (c = chain ∧ n = name ∧ ss' = ss ∨ ∀ s ∈ ss', s.filename = n) := by
  induction hlevel generalizing ss fault with
  | here => exact ⟨ss, fault, h, .inl ⟨rfl, rfl, rfl⟩⟩
  | inside hmem _ ih =>
    obtain _ | _ | _ | ⟨-, -, -, hinner⟩ := h.fits hmem
    obtain ⟨ss', fault', hresolves, ⟨-, rfl, rfl⟩ | hnames⟩ := ih hinner
    · exact ⟨_, fault', hresolves, .inr fun s hs => Loaded.filename_of_mem_segments hs⟩
    · exact ⟨ss', fault', hresolves, .inr hnames⟩

/-- **The files along a chain are different.** All that comes onto a chain has been found, and was
not on the chain before. -/
theorem Resolves.nodup_of_level (h : Resolves tree loader chain name ss fates fault)
    (hlevel : Fate.Level chain name fates c n fs) (hnodup : chain.Nodup) :
    c.Nodup ∧ ∃ found, c = found ++ chain ∧
      ∀ l ∈ found, ∃ path file, loader.Finds tree path file l := by
  induction hlevel generalizing ss fault with
  | here => exact ⟨hnodup, [], rfl, by simp⟩
  | inside hmem _ ih =>
    obtain _ | _ | _ | ⟨-, hfile, hnot, hinner⟩ := h.fits hmem
    obtain ⟨hnodup', found, rfl, hfound⟩ := ih hinner (List.nodup_cons.mpr ⟨hnot, hnodup⟩)
    refine ⟨hnodup', _, List.append_cons _ _ _, fun l hl => ?_⟩
    rcases List.mem_append.mp hl with hl | hl
    · exact hfound l hl
    · obtain rfl := List.mem_singleton.mp hl
      exact ⟨_, _, hfile⟩

/-! ## How deep splicing goes -/

/-- A fault comes from one of the parts. -/
theorem Spliced.exists_of_concat_fault {parts : List Spliced} {fault : ResolveFault}
    (h : (concat parts).fault = some fault) : ∃ p ∈ parts, p.fault = some fault := by
  induction parts with
  | nil => cases h
  | cons p parts ih =>
    rw [concat, List.foldr_cons, append] at h
    cases hp : p.fault with
    | some fault' =>
      rw [hp] at h
      exact ⟨p, List.mem_cons_self, h⟩
    | none =>
      rw [hp] at h
      obtain ⟨q, hq, hfault⟩ := ih h
      exact ⟨q, List.mem_cons_of_mem p hq, hfault⟩

/-- It is too deep for a segment when it is too deep for the file that takes its place. -/
theorem exists_of_spliceSegment_tooDeep {inner : Splicer}
    (h : (spliceSegment tree loader inner chain name s).fault = some .tooDeep) :
    ∃ path file identity, loader.Finds tree path file identity ∧ identity ∉ chain ∧
      ∃ child : Document,
        (inner (identity :: chain) child.name child.segments).fault = some .tooDeep := by
  cases meets tree loader chain s with
  | kept hs =>
    rw [spliceSegment_of_kept hs] at h
    cases h
  | missing hs hload =>
    rw [spliceSegment_of_missing hs hload] at h
    cases h
  | unloaded hs hload hfound =>
    rw [spliceSegment_of_unloaded hs hload hfound] at h
    cases h
  | unnamed hs hload hreal =>
    rw [spliceSegment_of_unnamed hs hload hreal] at h
    cases h
  | cyclic hs hfile hmem =>
    rw [spliceSegment_of_cyclic hs hfile hmem] at h
    cases h
  | unscanned hs hfile hnot hscan =>
    rw [spliceSegment_of_unscanned hs hfile hnot hscan] at h
    cases h
  | scanned hs hfile hnot hscan =>
    rw [spliceSegment_of_scanned hs hfile hnot hscan] at h
    exact ⟨_, _, _, hfile, hnot, _, h⟩

/-- **Where only so many files are found, splicing does not go deeper.** -/
theorem splice_fault_ne_tooDeep {found : Finset Location}
    (hfound : ∀ path file identity, loader.Finds tree path file identity → identity ∈ found)
    {depth : Nat} (hdepth : (found \ chain.toFinset).card < depth) :
    (splice tree loader depth chain name ss).fault ≠ some .tooDeep := by
  induction depth generalizing chain name ss with
  | zero => exact absurd hdepth (Nat.not_lt_zero _)
  | succ depth ih =>
    intro hdeep
    obtain ⟨p, hp, hdeep⟩ := Spliced.exists_of_concat_fault hdeep
    obtain ⟨s, -, rfl⟩ := List.mem_map.mp hp
    obtain ⟨path, file, identity, hfile, hnot, child, hdeep⟩ :=
      exists_of_spliceSegment_tooDeep hdeep
    have hnew : identity ∈ found \ chain.toFinset := by
      simp [hfound path file identity hfile, hnot]
    have hfewer : (found \ (identity :: chain).toFinset).card < (found \ chain.toFinset).card := by
      rw [List.toFinset_cons, Finset.sdiff_insert]
      exact Finset.card_erase_lt_of_mem hnew
    exact ih (by omega) hdeep

/-- **And all depths beyond that give the same.** -/
theorem exists_resolves_of_found {found : Finset Location}
    (hfound : ∀ path file identity, loader.Finds tree path file identity → identity ∈ found) :
    ∃ fates fault, Resolves tree loader chain name ss fates fault ∧
      ∀ depth, (found \ chain.toFinset).card < depth →
        splice tree loader depth chain name ss = Fate.outcome fates fault := by
  obtain ⟨fates, fault, hresolves, -⟩ :=
    exists_resolves_of_splice (splice_fault_ne_tooDeep hfound (Nat.lt_succ_self _))
  refine ⟨fates, fault, hresolves, fun depth hdepth => ?_⟩
  obtain ⟨fates', fault', hresolves', heq⟩ :=
    exists_resolves_of_splice (splice_fault_ne_tooDeep hfound hdepth)
  exact heq.trans (hresolves'.outcome_eq hresolves)

end Stencil
