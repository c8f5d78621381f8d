import Stencil.Include.Resolve

/-!
# What becomes of directives

When the directives of a file are replaced, every segment meets a *fate*: it is kept, or it is a
directive that is left out, or it makes way for the segments of a file, which have met their fates
before. The fates of the segments of a file make a tree, and all that splicing gives can be read off
it. `Resolves` says which trees there are: what happens to a directive depends on the file that it
leads to and on the *chain* of files that are being included. It knows no bound on the depth.

* `exists_resolves_of_splice`: splicing that does not go too deep follows `Resolves`.
* `splice_eq_of_resolves`: and where `Resolves` leads, splicing goes, if it may go deep enough.
-/

namespace Stencil

/-- What became of a segment. -/
inductive Fate where
  /-- A segment that is no directive is kept. -/
  | kept (s : Segment)
  /-- A directive is left out, with a warning. -/
  | leftOut (s : Segment) (w : IncludeWarning)
  /-- A directive makes way for a file; this became of the segments of the file. -/
  | spliced (s : Segment) (file : Loaded) (identity : Location) (inner : List Fate)

namespace Fate

/-- The segment that stood there. -/
def before : Fate → Segment
  | kept s => s
  | leftOut s _ => s
  | spliced s _ _ _ => s

/-- The warning about the segment itself. -/
def warning? : Fate → Option IncludeWarning
  | leftOut _ w => some w
  | _ => none

/-- Has a file been put in place of the segment? -/
def isSpliced : Fate → Bool
  | spliced _ _ _ _ => true
  | _ => false

mutual

/-- The segments that stand there now: empty text in place of a directive that is left out. -/
def after : Fate → List Segment
  | kept s => [s]
  | leftOut _ w => [⟨.literal [], w.filename, w.line⟩]
  | spliced _ _ _ inner => afterAll inner

/-- The segments that stand in place of several. -/
def afterAll : List Fate → List Segment
  | [] => []
  | f :: fs => f.after ++ afterAll fs

end

mutual

/-- The warnings given on the way. -/
def warnings : Fate → List IncludeWarning
  | kept _ => []
  | leftOut _ w => [w]
  | spliced _ _ _ inner => warningsAll inner

/-- The warnings given for several segments. -/
def warningsAll : List Fate → List IncludeWarning
  | [] => []
  | f :: fs => f.warnings ++ warningsAll fs

end

mutual

/-- The texts of the files met on the way. -/
def files : Fate → List (Text × Text)
  | kept _ => []
  | leftOut _ _ => []
  | spliced _ file _ inner => (file.filename, file.text) :: filesAll inner

/-- The texts of the files met for several segments. -/
def filesAll : List Fate → List (Text × Text)
  | [] => []
  | f :: fs => f.files ++ filesAll fs

end

/-- What splicing gives when the segments meet these fates, and then perhaps a fault. -/
def outcome (fates : List Fate) (fault : Option ResolveFault) : Spliced :=
  ⟨afterAll fates, warningsAll fates, filesAll fates, fault⟩

/-- Fates of the segments of one file in a tree of fates: the chain of files that are being included
there, the name of the file, and the fates. -/
inductive Level : List Location → Text → List Fate → List Location → Text → List Fate → Prop where
  | here {chain : List Location} {name : Text} {fates : List Fate} :
      Level chain name fates chain name fates
  | inside {chain c : List Location} {name n : Text} {fates inner fs : List Fate} {s : Segment}
      {file : Loaded} {identity : Location} (h : spliced s file identity inner ∈ fates)
      (hlevel : Level (identity :: chain) file.filename inner c n fs) :
      Level chain name fates c n fs

end Fate

/-! ## The relation -/

/-- The loader finds a file under a path, and the file has this identity. -/
structure Loader.Finds (loader : Loader) (tree : FileTree) (path : Text) (file : Loaded)
    (identity : Location) : Prop where
  load_eq : loader.load path = .ok file
  identity_eq : tree.realPath file.filename = .ok identity

/-- The segments of the file `name` meet their fates while the files of a chain are being included;
a fault ends it, if there is one. -/
inductive Resolves (tree : FileTree) (loader : Loader) :
    (chain : List Location) → (name : Text) → List Segment → List Fate → Option ResolveFault →
      Prop where
  | nil {chain : List Location} {name : Text} : Resolves tree loader chain name [] [] none
  | kept {chain : List Location} {name : Text} {s : Segment} {ss : List Segment}
      {fates : List Fate} {fault : Option ResolveFault} (hs : s.path? = none)
      (hrest : Resolves tree loader chain name ss fates fault) :
      Resolves tree loader chain name (s :: ss) (.kept s :: fates) fault
  /-- A directive whose file is not found is left out. -/
  | missing {chain : List Location} {name path message : Text} {s : Segment} {ss : List Segment}
      {fates : List Fate} {fault : Option ResolveFault} (hs : s.path? = some path)
      (hload : loader.load path = .error (.notFound message))
      (hrest : Resolves tree loader chain name ss fates fault) :
      Resolves tree loader chain name (s :: ss)
        (.leftOut s ⟨name, s.line, path, .includeNotFound⟩ :: fates) fault
  /-- A directive whose file is on the chain is left out. -/
  | cyclic {chain : List Location} {name path : Text} {s : Segment} {ss : List Segment}
      {file : Loaded} {identity : Location} {fates : List Fate} {fault : Option ResolveFault}
      (hs : s.path? = some path) (hfile : loader.Finds tree path file identity)
      (hmem : identity ∈ chain) (hrest : Resolves tree loader chain name ss fates fault) :
      Resolves tree loader chain name (s :: ss)
        (.leftOut s ⟨name, s.line, path, .includeCycle⟩ :: fates) fault
  /-- Any other file takes the place of its directive, and is on the chain meanwhile. -/
  | spliced {chain : List Location} {name path : Text} {s : Segment} {ss : List Segment}
      {file : Loaded} {identity : Location} {child : Document} {inner fates : List Fate}
      {fault : Option ResolveFault} (hs : s.path? = some path)
      (hfile : loader.Finds tree path file identity) (hnot : identity ∉ chain)
      (hscan : scanTemplate file.text file.filename = .ok child)
      (hinner : Resolves tree loader (identity :: chain) child.name child.segments inner none)
      (hrest : Resolves tree loader chain name ss fates fault) :
      Resolves tree loader chain name (s :: ss) (.spliced s file identity inner :: fates) fault
  /-- A fault in a file that is being included. -/
  | stopped {chain : List Location} {name path : Text} {s : Segment} {ss : List Segment}
      {file : Loaded} {identity : Location} {child : Document} {inner : List Fate}
      {fault : ResolveFault} (hs : s.path? = some path)
      (hfile : loader.Finds tree path file identity) (hnot : identity ∉ chain)
      (hscan : scanTemplate file.text file.filename = .ok child)
      (hinner : Resolves tree loader (identity :: chain) child.name child.segments inner
        (some fault)) :
      Resolves tree loader chain name (s :: ss) [.spliced s file identity inner] (some fault)
  /-- A file that cannot be scanned. -/
  | unscanned {chain : List Location} {name path : Text} {s : Segment} {ss : List Segment}
      {file : Loaded} {identity : Location} {e : CompileError} (hs : s.path? = some path)
      (hfile : loader.Finds tree path file identity) (hnot : identity ∉ chain)
      (hscan : scanTemplate file.text file.filename = .error e) :
      Resolves tree loader chain name (s :: ss) [.spliced s file identity []] (some (.scan e))
  /-- A file whose name has no real path. -/
  | unnamed {chain : List Location} {name path : Text} {s : Segment} {ss : List Segment}
      {file : Loaded} {e : FileTree.NulInPath} (hs : s.path? = some path)
      (hload : loader.load path = .ok file) (hreal : tree.realPath file.filename = .error e) :
      Resolves tree loader chain name (s :: ss) [] (some .nulInPath)
  /-- A file that cannot be loaded. -/
  | unloaded {chain : List Location} {name path : Text} {s : Segment} {ss : List Segment}
      {fault : LoadFault} (hs : s.path? = some path) (hload : loader.load path = .error fault)
      (hfound : ∀ message, fault ≠ .notFound message) :
      Resolves tree loader chain name (s :: ss) [] (some (.load fault))

variable {tree : FileTree} {loader : Loader} {chain : List Location} {name path : Text}
  {s : Segment} {ss : List Segment} {file : Loaded} {identity : Location} {fates : List Fate}
  {fault : Option ResolveFault}

theorem Loader.Finds.unique {file' : Loaded} {identity' : Location}
    (h : loader.Finds tree path file identity) (h' : loader.Finds tree path file' identity') :
    file = file' ∧ identity = identity' := by
  obtain rfl : file = file' := Except.ok.inj (h.load_eq.symm.trans h'.load_eq)
  exact ⟨rfl, Except.ok.inj (h.identity_eq.symm.trans h'.identity_eq)⟩

/-! ## What takes the place of a segment -/

/-- What a segment meets while the files of a chain are being included. -/
inductive Meets (tree : FileTree) (loader : Loader) (chain : List Location) (s : Segment) :
    Prop where
  | kept (hs : s.path? = none)
  | missing {path message : Text} (hs : s.path? = some path)
      (hload : loader.load path = .error (.notFound message))
  | unloaded {path : Text} {fault : LoadFault} (hs : s.path? = some path)
      (hload : loader.load path = .error fault) (hfound : ∀ message, fault ≠ .notFound message)
  | unnamed {path : Text} {file : Loaded} {e : FileTree.NulInPath} (hs : s.path? = some path)
      (hload : loader.load path = .ok file) (hreal : tree.realPath file.filename = .error e)
  | cyclic {path : Text} {file : Loaded} {identity : Location} (hs : s.path? = some path)
      (hfile : loader.Finds tree path file identity) (hmem : identity ∈ chain)
  | unscanned {path : Text} {file : Loaded} {identity : Location} {e : CompileError}
      (hs : s.path? = some path) (hfile : loader.Finds tree path file identity)
      (hnot : identity ∉ chain) (hscan : scanTemplate file.text file.filename = .error e)
  | scanned {path : Text} {file : Loaded} {identity : Location} {child : Document}
      (hs : s.path? = some path) (hfile : loader.Finds tree path file identity)
      (hnot : identity ∉ chain) (hscan : scanTemplate file.text file.filename = .ok child)

theorem meets (tree : FileTree) (loader : Loader) (chain : List Location) (s : Segment) :
    Meets tree loader chain s := by
  cases hs : s.path? with
  | none => exact .kept hs
  | some path =>
    cases hload : loader.load path with
    | error fault =>
      cases fault with
      | notFound message => exact .missing hs hload
      | file fault | noAnswer name => exact .unloaded hs hload nofun
    | ok file =>
      cases hreal : tree.realPath file.filename with
      | error e => exact .unnamed hs hload hreal
      | ok identity =>
        have hfile : loader.Finds tree path file identity := ⟨hload, hreal⟩
        by_cases hmem : identity ∈ chain
        · exact .cyclic hs hfile hmem
        · cases hscan : scanTemplate file.text file.filename with
          | error e => exact .unscanned hs hfile hmem hscan
          | ok child => exact .scanned hs hfile hmem hscan

section SpliceSegment

variable {inner : Splicer}

theorem spliceSegment_of_kept (hs : s.path? = none) :
    spliceSegment tree loader inner chain name s = .keep s := by
  simp only [spliceSegment, hs]

theorem spliceSegment_of_missing {message : Text} (hs : s.path? = some path)
    (hload : loader.load path = .error (.notFound message)) :
    spliceSegment tree loader inner chain name s =
      .leaveOut name s.line path .includeNotFound := by
  simp only [spliceSegment, hs, hload]

theorem spliceSegment_of_unloaded {fault : LoadFault} (hs : s.path? = some path)
    (hload : loader.load path = .error fault) (hfound : ∀ message, fault ≠ .notFound message) :
    spliceSegment tree loader inner chain name s = .stop (.load fault) := by
  cases fault with
  | notFound message => exact absurd rfl (hfound message)
  | file fault | noAnswer n => simp only [spliceSegment, hs, hload]

theorem spliceSegment_of_unnamed {e : FileTree.NulInPath} (hs : s.path? = some path)
    (hload : loader.load path = .ok file) (hreal : tree.realPath file.filename = .error e) :
    spliceSegment tree loader inner chain name s = .stop .nulInPath := by
  simp only [spliceSegment, hs, hload, hreal]

theorem spliceSegment_of_cyclic (hs : s.path? = some path)
    (hfile : loader.Finds tree path file identity) (hmem : identity ∈ chain) :
    spliceSegment tree loader inner chain name s =
      .leaveOut name s.line path .includeCycle := by
  simp only [spliceSegment, hs, hfile.load_eq, hfile.identity_eq, if_pos hmem]

theorem spliceSegment_of_unscanned {e : CompileError} (hs : s.path? = some path)
    (hfile : loader.Finds tree path file identity) (hnot : identity ∉ chain)
    (hscan : scanTemplate file.text file.filename = .error e) :
    spliceSegment tree loader inner chain name s =
      .fromFile file.filename file.text (.stop (.scan e)) := by
  simp only [spliceSegment, hs, hfile.load_eq, hfile.identity_eq, if_neg hnot, hscan]

theorem spliceSegment_of_scanned {child : Document} (hs : s.path? = some path)
    (hfile : loader.Finds tree path file identity) (hnot : identity ∉ chain)
    (hscan : scanTemplate file.text file.filename = .ok child) :
    spliceSegment tree loader inner chain name s =
      .fromFile file.filename file.text
        (inner (identity :: chain) child.name child.segments) := by
  simp only [spliceSegment, hs, hfile.load_eq, hfile.identity_eq, if_neg hnot, hscan]

end SpliceSegment

/-! ## Splicing follows the relation -/

theorem splice_cons (depth : Nat) (chain : List Location) (name : Text) (s : Segment)
    (ss : List Segment) :
    splice tree loader (depth + 1) chain name (s :: ss) =
      (spliceSegment tree loader (splice tree loader depth) chain name s).append
        (splice tree loader (depth + 1) chain name ss) := rfl

/-- What is spliced for a segment, and perhaps a fault. -/
def Fate.part (f : Fate) (fault : Option ResolveFault) : Spliced :=
  ⟨f.after, f.warnings, f.files, fault⟩

theorem Fate.part_append_outcome (f : Fate) (fates : List Fate) (fault : Option ResolveFault) :
    (f.part none).append (outcome fates fault) = outcome (f :: fates) fault := rfl

theorem Fate.part_append_of_fault (f : Fate) (fault : ResolveFault) (b : Spliced) :
    (f.part (some fault)).append b = outcome [f] (some fault) := by
  simp [part, Spliced.append, outcome, afterAll, warningsAll, filesAll]

theorem splice_cons_of_part {depth : Nat} {f : Fate}
    (hpart : spliceSegment tree loader (splice tree loader depth) chain name s = f.part none)
    (hrest : splice tree loader (depth + 1) chain name ss = Fate.outcome fates fault) :
    splice tree loader (depth + 1) chain name (s :: ss) = Fate.outcome (f :: fates) fault := by
  rw [splice_cons, hpart, hrest, Fate.part_append_outcome]

theorem splice_cons_of_fault {depth : Nat} {f : Fate} {fault : ResolveFault}
    (hpart : spliceSegment tree loader (splice tree loader depth) chain name s =
      f.part (some fault)) :
    splice tree loader (depth + 1) chain name (s :: ss) = Fate.outcome [f] (some fault) := by
  rw [splice_cons, hpart, Fate.part_append_of_fault]

theorem splice_cons_of_stop {depth : Nat} {fault : ResolveFault}
    (hpart : spliceSegment tree loader (splice tree loader depth) chain name s = .stop fault) :
    splice tree loader (depth + 1) chain name (s :: ss) = Fate.outcome [] (some fault) := by
  rw [splice_cons, hpart]
  rfl

/-- **Splicing that does not go too deep follows the relation.** -/
theorem exists_resolves_of_splice {depth : Nat}
    (h : (splice tree loader depth chain name ss).fault ≠ some .tooDeep) :
    ∃ fates fault, Resolves tree loader chain name ss fates fault ∧
      splice tree loader depth chain name ss = Fate.outcome fates fault := by
  induction depth generalizing chain name ss with
  | zero => exact absurd rfl h
  | succ depth ihDepth =>
    induction ss with
    | nil => exact ⟨[], none, .nil, rfl⟩
    | cons s ss ih =>
      -- A segment that meets its fate, and the others behind it.
      have goesOn (f : Fate) (hpart : spliceSegment tree loader (splice tree loader depth) chain
            name s = f.part none)
          (hf : ∀ {fates fault}, Resolves tree loader chain name ss fates fault →
            Resolves tree loader chain name (s :: ss) (f :: fates) fault) :
          ∃ fates fault, Resolves tree loader chain name (s :: ss) fates fault ∧
            splice tree loader (depth + 1) chain name (s :: ss) = Fate.outcome fates fault := by
        rw [splice_cons, hpart] at h
        obtain ⟨fates, fault, hrest, heq⟩ := ih h
        exact ⟨f :: fates, fault, hf hrest, splice_cons_of_part hpart heq⟩
      cases meets tree loader chain s with
      | kept hs => exact goesOn (.kept s) (spliceSegment_of_kept hs) (.kept hs)
      | missing hs hload =>
        exact goesOn (.leftOut s _) (spliceSegment_of_missing hs hload) (.missing hs hload)
      | cyclic hs hfile hmem =>
        exact goesOn (.leftOut s _) (spliceSegment_of_cyclic hs hfile hmem) (.cyclic hs hfile hmem)
      | unloaded hs hload hfound =>
        exact ⟨_, _, .unloaded hs hload hfound,
          splice_cons_of_stop (spliceSegment_of_unloaded hs hload hfound)⟩
      | unnamed hs hload hreal =>
        exact ⟨_, _, .unnamed hs hload hreal,
          splice_cons_of_stop (spliceSegment_of_unnamed hs hload hreal)⟩
      | unscanned hs hfile hnot hscan =>
        exact ⟨_, _, .unscanned hs hfile hnot hscan,
          splice_cons_of_fault (spliceSegment_of_unscanned hs hfile hnot hscan)⟩
      | @scanned path file identity child hs hfile hnot hscan =>
        have hpart : spliceSegment tree loader (splice tree loader depth) chain name s =
            .fromFile file.filename file.text (splice tree loader depth
              (identity :: chain) child.name child.segments) :=
          spliceSegment_of_scanned hs hfile hnot hscan
        have hinner : (splice tree loader depth (identity :: chain) child.name
            child.segments).fault ≠ some .tooDeep := by
          intro hdeep
          rw [splice_cons, hpart] at h
          simp [Spliced.append, Spliced.fromFile, hdeep] at h
        obtain ⟨inner, fault, hinner, heq⟩ := ihDepth hinner
        rw [heq] at hpart
        cases fault with
        | none =>
          exact goesOn (.spliced s file identity inner) hpart (.spliced hs hfile hnot hscan hinner)
        | some fault =>
          exact ⟨_, _, .stopped hs hfile hnot hscan hinner, splice_cons_of_fault hpart⟩

/-- **Where the relation leads, splicing goes**, if it may go deep enough. -/
theorem splice_eq_of_resolves (h : Resolves tree loader chain name ss fates fault) :
    ∃ n, ∀ depth, n ≤ depth →
      splice tree loader (depth + 1) chain name ss = Fate.outcome fates fault := by
  induction h with
  | nil => exact ⟨0, fun _ _ => rfl⟩
  | kept hs _ ih =>
    obtain ⟨n, hn⟩ := ih
    exact ⟨n, fun depth hdepth => splice_cons_of_part (f := .kept _) (spliceSegment_of_kept hs)
      (hn depth hdepth)⟩
  | missing hs hload _ ih =>
    obtain ⟨n, hn⟩ := ih
    exact ⟨n, fun depth hdepth => splice_cons_of_part (f := .leftOut _ _)
      (spliceSegment_of_missing hs hload) (hn depth hdepth)⟩
  | cyclic hs hfile hmem _ ih =>
    obtain ⟨n, hn⟩ := ih
    exact ⟨n, fun depth hdepth => splice_cons_of_part (f := .leftOut _ _)
      (spliceSegment_of_cyclic hs hfile hmem) (hn depth hdepth)⟩
  | spliced hs hfile hnot hscan _ _ ihInner ih =>
    obtain ⟨m, hm⟩ := ihInner
    obtain ⟨n, hn⟩ := ih
    refine ⟨max (m + 1) n, fun depth hdepth => ?_⟩
    obtain ⟨depth, rfl⟩ : ∃ k, depth = k + 1 := ⟨depth - 1, by omega⟩
    refine splice_cons_of_part (f := .spliced _ _ _ _) ?_ (hn _ (by omega))
    rw [spliceSegment_of_scanned hs hfile hnot hscan, hm depth (by omega)]
    rfl
  | stopped hs hfile hnot hscan _ ihInner =>
    obtain ⟨m, hm⟩ := ihInner
    refine ⟨m + 1, fun depth hdepth => ?_⟩
    obtain ⟨depth, rfl⟩ : ∃ k, depth = k + 1 := ⟨depth - 1, by omega⟩
    refine splice_cons_of_fault (f := .spliced _ _ _ _) ?_
    rw [spliceSegment_of_scanned hs hfile hnot hscan, hm depth (by omega)]
    rfl
  | unscanned hs hfile hnot hscan =>
    exact ⟨0, fun depth _ => splice_cons_of_fault (f := .spliced _ _ _ _)
      (spliceSegment_of_unscanned hs hfile hnot hscan)⟩
  | unnamed hs hload hreal =>
    exact ⟨0, fun depth _ => splice_cons_of_stop (spliceSegment_of_unnamed hs hload hreal)⟩
  | unloaded hs hload hfound =>
    exact ⟨0, fun depth _ => splice_cons_of_stop (spliceSegment_of_unloaded hs hload hfound)⟩

/-- What comes out does not depend on how the relation has led to it. -/
theorem Resolves.outcome_eq {fates' : List Fate} {fault' : Option ResolveFault}
    (h : Resolves tree loader chain name ss fates fault)
    (h' : Resolves tree loader chain name ss fates' fault') :
    Fate.outcome fates fault = Fate.outcome fates' fault' := by
  obtain ⟨n, hn⟩ := splice_eq_of_resolves h
  obtain ⟨n', hn'⟩ := splice_eq_of_resolves h'
  exact (hn (max n n') (Nat.le_max_left ..)).symm.trans (hn' _ (Nat.le_max_right ..))

/-! ## Documents -/

/-- The chain that a document begins with: the file that it was read from, if any. -/
def originChain (tree : FileTree) (origin : Option Text) :
    Except FileTree.NulInPath (List Location) :=
  match origin with
  | none => .ok []
  | some path => (tree.realPath path).map fun l => [l]

theorem nodup_of_originChain {origin : Option Text} (h : originChain tree origin = .ok chain) :
    chain.Nodup := by
  cases origin with
  | none =>
    cases h
    exact List.nodup_nil
  | some path =>
    rw [originChain] at h
    cases hreal : tree.realPath path with
    | error e =>
      rw [hreal] at h
      cases h
    | ok l =>
      rw [hreal] at h
      cases h
      exact List.pairwise_singleton _ l

/-- A document resolved: what its segments have become, and the texts that they come from. -/
def Spliced.resolved (x : Spliced) (d : Document) : Resolved where
  document := { d with segments := x.segments }
  warnings := x.warnings
  sources := x.files.foldl addSource [(d.name, d.source)]

/-- The result of splicing, as the result for a document. -/
def Spliced.result (x : Spliced) (d : Document) : Except ResolveFault Resolved :=
  match x.fault with
  | some fault => .error fault
  | none => .ok (x.resolved d)

theorem Spliced.result_eq_ok_iff {x : Spliced} {d : Document} {r : Resolved} :
    x.result d = .ok r ↔ x.fault = none ∧ r = x.resolved d := by
  rw [result]
  split
  · rename_i hfault
    simp [hfault]
  · rename_i hfault
    simp [hfault, eq_comm]

theorem Spliced.result_eq_error_iff {x : Spliced} {d : Document} {fault : ResolveFault} :
    x.result d = .error fault ↔ x.fault = some fault := by
  rw [result]
  split
  · rename_i hfault
    simp [hfault]
  · rename_i hfault
    simp [hfault]

/-- A document is resolved by splicing. -/
theorem resolve_eq (tree : FileTree) (loader : Loader) (d : Document) (origin : Option Text) :
    resolve tree loader d origin =
      match originChain tree origin with
      | .error _ => ⟨[], .error .nulInPath⟩
      | .ok chain =>
        let spliced := splice tree loader (loader.size + 1) chain d.name d.segments
        ⟨spliced.warnings, spliced.result d⟩ := rfl

theorem resolve_eq_of_splice {d : Document} {origin : Option Text} {x : Spliced}
    (hchain : originChain tree origin = .ok chain)
    (h : splice tree loader (loader.size + 1) chain d.name d.segments = x) :
    resolve tree loader d origin = ⟨x.warnings, x.result d⟩ := by
  rw [resolve_eq, hchain, ← h]

/-- **A document that is resolved has been resolved by the relation.** -/
theorem exists_resolves_of_resolve {d : Document} {origin : Option Text} {r : Resolved}
    (h : (resolve tree loader d origin).result = .ok r) :
    ∃ chain fates, originChain tree origin = .ok chain ∧
      Resolves tree loader chain d.name d.segments fates none ∧
      r = (Fate.outcome fates none).resolved d := by
  rw [resolve_eq] at h
  cases hchain : originChain tree origin with
  | error e =>
    rw [hchain] at h
    cases h
  | ok chain =>
    rw [hchain] at h
    obtain ⟨hfault, hr⟩ := Spliced.result_eq_ok_iff.mp h
    have hdeep : (splice tree loader (loader.size + 1) chain d.name d.segments).fault ≠
        some .tooDeep := by
      rw [hfault]
      exact nofun
    obtain ⟨fates, fault, hresolves, heq⟩ := exists_resolves_of_splice hdeep
    rw [heq] at hfault hr
    obtain rfl : fault = none := hfault
    exact ⟨chain, fates, rfl, hresolves, hr⟩

end Stencil
