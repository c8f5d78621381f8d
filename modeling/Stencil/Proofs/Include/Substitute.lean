import Mathlib
import Stencil.Environment
import Stencil.Proofs.Include.Chain
import Stencil.Proofs.Script.Layout

/-!
# Included files take the places of their directives

A document that is resolved has become what its fates say: each directive has made way for the
segments of its file, which have been treated in the same way, or for empty text; all else stands
where it stood. No directive is left, so that the generator never meets one.

* `includes_are_substituted`: what is put in the places of the directives.
-/

namespace Stencil

variable {tree : FileTree} {loader : Loader} {chain : List Location} {name : Text} {s : Segment}
  {ss : List Segment} {fates : List Fate} {fault : Option ResolveFault}

/-! ## What stands in the places of segments -/

theorem Fate.afterAll_eq_flatMap (fates : List Fate) : afterAll fates = fates.flatMap after := by
  induction fates with
  | nil => rfl
  | cons f fates ih => rw [afterAll, ih, List.flatMap_cons]

/-- No directive is left. -/
theorem Resolves.path?_eq_none (h : Resolves tree loader chain name ss fates fault) :
    ∀ s ∈ Fate.afterAll fates, s.path? = none := by
  induction h with
  | nil | unnamed | unloaded => simp [Fate.afterAll]
  | kept hs _ ih => simpa [Fate.afterAll, Fate.after, hs] using ih
  | missing _ _ _ ih | cyclic _ _ _ _ ih =>
    simpa [Fate.afterAll, Fate.after, Segment.path?] using ih
  | spliced _ _ _ _ _ _ ihInner ih =>
    simp only [Fate.afterAll, Fate.after, List.mem_append]
    rintro s (hs | hs)
    · exact ihInner s hs
    · exact ih s hs
  | stopped _ _ _ _ _ ihInner => simpa [Fate.afterAll, Fate.after] using ihInner
  | unscanned => simp [Fate.afterAll, Fate.after]

namespace Fate.Fits

variable {f g : Fate}

/-- Empty text stands in place of what is left out, at its own line in the file that it stood in. -/
theorem after_of_leftOut {w : IncludeWarning} (h : Fits tree loader chain name (.leftOut s w)) :
    (Fate.leftOut s w).after = [⟨.literal [], name, s.line⟩] := by
  cases h <;> rfl

/-- A file is put in the places of all directives that name it. -/
theorem after_eq (hf : f.Fits tree loader chain name) (hg : g.Fits tree loader chain name)
    (hpath : f.before.path? = g.before.path?) (hspliced : f.isSpliced) : g.after = f.after := by
  cases hf with
  | kept | missing | cyclic => cases hspliced
  | spliced hs hfile hnot hinner =>
    have hs' := hpath.symm.trans hs
    cases hg with
    | kept hplain => cases hplain.symm.trans hs'
    | missing hsame hload =>
      obtain rfl := Option.some.inj (hsame.symm.trans hs')
      cases hload.symm.trans hfile.load_eq
    | cyclic hsame hfile' hmem =>
      obtain rfl := Option.some.inj (hsame.symm.trans hs')
      obtain ⟨-, rfl⟩ := hfile.unique hfile'
      exact absurd hmem hnot
    | spliced hsame hfile' _ hinner' =>
      obtain rfl := Option.some.inj (hsame.symm.trans hs')
      obtain ⟨rfl, rfl⟩ := hfile.unique hfile'
      exact congrArg Spliced.segments (hinner'.outcome_eq hinner)

end Fate.Fits

/-! ## Generating a document without directives -/

theorem Draft.path?_of_add_eq_unresolved {draft : Draft} {path filename : Text} {line : Int}
    (h : draft.add s = .error (.unresolved path filename line)) : s.path? = some path := by
  rw [add] at h
  split at h
  · cases h
  · cases h
  · cases h
  · rename_i hbody
    cases h
    rw [Segment.path?, hbody]
  · split at h
    · cases h
    · dsimp only at h
      split at h <;> cases h

/-- The generator refuses only a directive that it meets. -/
theorem exists_directive_of_unresolved {d : Document} {sources : List (Text × Text)}
    {warnings : List IncludeWarning} {path filename : Text} {line : Int}
    (h : generate d sources warnings = .error (.unresolved path filename line)) :
    ∃ s ∈ d.segments, s.path? = some path := by
  rw [generate, Generation.script] at h
  rcases Generation.exists_of_bind_eq_error h with hset | ⟨_, d₀, h⟩
  · cases hset
  rcases Generation.exists_of_bind_eq_error h with hadd | ⟨_, d₁, h⟩
  · obtain ⟨s, hs, draft, hrefused⟩ := Generation.exists_add_eq_error hadd
    exact ⟨s, hs, Draft.path?_of_add_eq_unresolved hrefused⟩
  dsimp only at h
  split at h
  · cases h
  rcases Generation.exists_of_bind_eq_error h with hget | ⟨draft, d₂, h⟩
  · cases hget
  split at h
  · rename_i misuse _
    cases misuse <;> cases h
  · cases h

/-- A template that cannot be read is not refused by the generator. -/
theorem Environment.readSource_ne_refused (env : Environment) (tree : FileTree)
    (r : CompileRequest) (e : GenerateError) : env.readSource tree r ≠ .error (.refused e) := by
  rw [readSource]
  split
  · exact nofun
  · exact nofun
  · rename_i given _ _
    dsimp only
    cases tree.isFile (Path.ofText given).text with
    | error fault =>
      intro h
      cases h
    | ok found =>
      cases found with
      | false =>
        intro h
        cases h
      | true =>
        intro h
        cases htext : tree.readText (Path.ofText given).text env.encoding <;>
          rw [htext] at h <;> cases h
  · exact nofun

theorem Failure.ofResolve_ne_refused (fault : ResolveFault) (e : GenerateError) :
    ofResolve fault ≠ .refused e := by
  cases fault with
  | scan | nulInPath | tooDeep => exact nofun
  | load fault => cases fault <;> exact nofun

theorem Failure.eq_of_ofGenerate {e : GenerateError} {path filename : Text} {line : Int}
    (h : ofGenerate e = .refused (.unresolved path filename line)) :
    e = .unresolved path filename line := by
  cases e <;> cases h
  rfl

/-- No compilation meets a directive that nothing was put in place of. -/
theorem Environment.compile_ne_unresolved (env : Environment) (tree : FileTree)
    (r : CompileRequest) (path filename : Text) (line : Int) :
    (env.compile tree r).result ≠ .error (.refused (.unresolved path filename line)) := by
  intro h
  rw [Environment.compile] at h
  cases hsource : env.readSource tree r with
  | error failure =>
    rw [hsource] at h
    cases h
    exact env.readSource_ne_refused tree r _ hsource
  | ok source =>
    simp only [hsource] at h
    cases hscan : scanTemplate source.text source.name with
    | error e => simp [hscan] at h
    | ok document =>
      simp only [hscan] at h
      cases hresolve :
          (resolve tree (env.loaderFor tree r.includePath) document source.origin).result with
      | error fault =>
        simp only [hresolve, Except.error.injEq] at h
        exact Failure.ofResolve_ne_refused fault _ h
      | ok resolved =>
        simp only [hresolve] at h
        cases hgenerate : generate resolved.document resolved.sources resolved.warnings with
        | error e =>
          simp only [hgenerate, Except.error.injEq] at h
          obtain rfl := Failure.eq_of_ofGenerate h
          obtain ⟨s, hs, hpath⟩ := exists_directive_of_unresolved hgenerate
          obtain ⟨_, _, -, hresolves, rfl⟩ := exists_resolves_of_resolve hresolve
          cases (hresolves.path?_eq_none s hs).symm.trans hpath
        | ok made => simp [hgenerate] at h

/-! ## Substitution -/

/-- **Resolving is substitution in place.** A resolved document has the name and the source of the
document and no directive. Its segments are what has become of those of the document, one after the
other, as `Resolves` says. At every level, be it the document or a file that is included: the
segments bear the name of the file (in the document, if they did so before); empty text stands in
place of what is left out, at its line in the file; and directives that name the same path become
the same segments once a file is put in place of one of them. So no compilation fails because of a
directive that is left. -/
theorem includes_are_substituted :
    (∀ (tree : FileTree) (loader : Loader) (d : Document) (origin : Option Text) (r : Resolved),
      (resolve tree loader d origin).result = .ok r →
      r.document.name = d.name ∧ r.document.source = d.source ∧ r.document.includes = [] ∧
      ∃ chain fates, originChain tree origin = .ok chain ∧
        Resolves tree loader chain d.name d.segments fates none ∧
        fates.map Fate.before = d.segments ∧
        r.document.segments = fates.flatMap Fate.after ∧
        ∀ c name fs, Fate.Level chain d.name fates c name fs →
          ((c ≠ chain ∨ ∀ s ∈ d.segments, s.filename = d.name) →
            ∀ f ∈ fs, f.before.filename = name) ∧
          (∀ s w, .leftOut s w ∈ fs →
            (Fate.leftOut s w).after = [⟨.literal [], name, s.line⟩]) ∧
          ∀ f ∈ fs, ∀ g ∈ fs, f.before.path? = g.before.path? → f.isSpliced →
            g.after = f.after) ∧
      ∀ (env : Environment) (tree : FileTree) (r : CompileRequest) (path filename : Text)
        (line : Int),
        (env.compile tree r).result ≠ .error (.refused (.unresolved path filename line)) := by
  refine ⟨fun tree loader d origin r h => ?_, Environment.compile_ne_unresolved⟩
  obtain ⟨chain, fates, hchain, hresolves, rfl⟩ := exists_resolves_of_resolve h
  refine ⟨rfl, rfl, List.filterMap_eq_nil_iff.mpr hresolves.path?_eq_none, chain, fates, hchain,
    hresolves, hresolves.map_before, Fate.afterAll_eq_flatMap fates, fun c name fs hlevel => ?_⟩
  obtain ⟨ss, fault, hlevel, hnames⟩ := hresolves.level hlevel
  refine ⟨fun hown f hf => ?_, fun s w hw => (hlevel.fits hw).after_of_leftOut,
    fun f hf g hg => (hlevel.fits hf).after_eq (hlevel.fits hg)⟩
  have hbefore : f.before ∈ ss := hlevel.before_mem hf
  rcases hnames with ⟨rfl, rfl, rfl⟩ | hnames
  · rcases hown with hinside | hown
    · exact absurd rfl hinside
    · exact hown _ hbefore
  · exact hnames _ hbefore

/-- A file that includes itself is put in the places of two directives, and empty text in that of a
third one, whose file is missing. -/
theorem includes_are_substituted_of_repeated_directive :
    let t : Text := "t".toList
    let a : Text := "a".toList
    let tree : FileTree := ⟨[], []⟩
    let loader := Loader.ofTexts [(a, "x\n<?include a?>".toList)]
    let d : Document := ⟨t, [⟨.directive a, t, 1⟩, ⟨.literal "-".toList, t, 1⟩,
      ⟨.directive a, t, 1⟩, ⟨.directive "c".toList, t, 2⟩], []⟩
    ∃ (r : Resolved) (fates : List Fate), (resolve tree loader d none).result = .ok r ∧
      r.document.includes = [] ∧ r.document.segments = fates.flatMap Fate.after ∧
      r.document.segments = [⟨.literal "x\n".toList, a, 1⟩, ⟨.literal [], a, 2⟩,
        ⟨.literal "-".toList, t, 1⟩, ⟨.literal "x\n".toList, a, 1⟩, ⟨.literal [], a, 2⟩,
        ⟨.literal [], t, 2⟩] ∧
      fates.map Fate.before = d.segments ∧ ∀ f ∈ fates, f.before.filename = t := by
  intro t a tree loader d
  let file : Loaded := ⟨"x\n<?include a?>".toList, a⟩
  have hfile : loader.Finds tree a file [a] := ⟨rfl, by cbv⟩
  have hscan : scanTemplate file.text file.filename = .ok ⟨a,
      [⟨.literal "x\n".toList, a, 1⟩, ⟨.directive a, a, 2⟩], file.text⟩ :=
    eq_ok_of_toOption (by decide +kernel)
  let x : Segment := ⟨.literal "x\n".toList, a, 1⟩
  let inner : List Fate := [.kept x, .leftOut ⟨.directive a, a, 2⟩ ⟨a, 2, a, .includeCycle⟩]
  have hinner : splice tree loader 1 [[a]] a [x, ⟨.directive a, a, 2⟩] = Fate.outcome inner none :=
    splice_cons_of_part (spliceSegment_of_kept rfl) <|
      splice_cons_of_part (spliceSegment_of_cyclic rfl hfile (by decide)) rfl
  have hpart : spliceSegment tree loader (splice tree loader 1) [] t ⟨.directive a, t, 1⟩ =
      (Fate.spliced ⟨.directive a, t, 1⟩ file [a] inner).part none := by
    rw [spliceSegment_of_scanned rfl hfile (by decide) hscan, hinner]
    rfl
  let outer : List Fate := [.spliced ⟨.directive a, t, 1⟩ file [a] inner,
    .kept ⟨.literal "-".toList, t, 1⟩, .spliced ⟨.directive a, t, 1⟩ file [a] inner,
    .leftOut ⟨.directive "c".toList, t, 2⟩ ⟨t, 2, "c".toList, .includeNotFound⟩]
  have houter : splice tree loader 2 [] t d.segments = Fate.outcome outer none :=
    splice_cons_of_part hpart <| splice_cons_of_part (spliceSegment_of_kept rfl) <|
      splice_cons_of_part hpart <| splice_cons_of_part (spliceSegment_of_missing rfl rfl) rfl
  let r : Resolved := (Fate.outcome outer none).resolved d
  have hr : (resolve tree loader d none).result = .ok r :=
    (congrArg (Spliced.result · d) houter).trans rfl
  obtain ⟨-, -, hnone, chain, fates, -, -, hbefore, hafter, hlevels⟩ :=
    includes_are_substituted.1 tree loader d none r hr
  have hown : ∀ s ∈ d.segments, s.filename = t := by decide
  exact ⟨r, fates, hr, hnone, hafter, rfl, hbefore,
    (hlevels chain t fates .here).1 (.inr hown)⟩

end Stencil
