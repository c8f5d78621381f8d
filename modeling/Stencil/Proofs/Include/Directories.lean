import Mathlib
import Stencil.Directories
import Stencil.Proofs.Include.Search
import Stencil.Proofs.Run.Inert

/-!
# Include paths for one compilation

An include path may be given with an environment or with a single compilation. Several directories
do the same in both places. One directory does not: a compilation searches directories that are
called like the characters of it, and refuses a path that has been read. This shows as files that
are not found, and so it makes no difference to a template for which neither the directory nor its
characters have a file that is missing without them.

* `compileWith_eq_of_addsNothing`: an include path that no missing file is found with.
* `include_path_of_call_is_that_of_environment`: when both places do the same.
* `not_include_path_of_call_is_that_of_environment`: one directory with a file.
-/

namespace Stencil

namespace Environment

variable {env env' : Environment} {tree : FileTree}

/-! ## Compiling with different loaders -/

/-- Compilations of what is read alike and resolved alike. -/
theorem compile_congr {r r' : CompileRequest}
    (hread : env.readSource tree r = env'.readSource tree r')
    (hresolve : ∀ source d, env.readSource tree r = .ok source →
      scanTemplate source.text source.name = .ok d →
      resolve tree (env.loaderFor tree r.includePath) d source.origin =
        resolve tree (env'.loaderFor tree r'.includePath) d source.origin) :
    env.compile tree r = env'.compile tree r' := by
  unfold compile
  rw [← hread]
  cases hsource : env.readSource tree r with
  | error failure => rfl
  | ok source =>
    dsimp only
    cases hscan : scanTemplate source.text source.name with
    | error e => rfl
    | ok d =>
      dsimp only
      rw [hresolve source d hsource hscan]

variable {p : Directories} {r : CompileRequest}

/-- The directories of an environment are searched if nothing else is given. -/
theorem loaderFor_withIncludePath (hloader : env.loader = none) (p : Directories) :
    (env.withIncludePath p).loaderFor tree none =
      (SearchPath.new p.texts env.encoding true).loader tree := by
  unfold loaderFor withIncludePath
  rw [hloader]

/-- What is gone through is searched in place of the directories of the environment. -/
theorem compileWith_of_toIncludePath (hloader : env.loader = none) {q : Directories}
    {path : IncludePath} (hpath : p.toIncludePath = .ok path) (hitems : path.items = q.texts) :
    env.compileWith tree r (some p) = (env.withIncludePath q).compileWith tree r none := by
  unfold compileWith
  rw [Option.map_some, hpath]
  refine compile_congr rfl fun source d _ _ => ?_
  rw [loaderFor_withIncludePath hloader, ← hitems]
  unfold loaderFor
  rfl

/-- An include path that cannot be gone through is refused when the template has been scanned. -/
theorem compileWith_of_refused {refusal : Failure} {source : SourceText} {d : Document}
    (hrefused : p.toIncludePath = .error refusal) (hsource : env.readSource tree r = .ok source)
    (hscan : scanTemplate source.text source.name = .ok d) :
    env.compileWith tree r (some p) = ⟨.error refusal, []⟩ := by
  unfold compileWith
  simp only [Option.map_some, hrefused, hsource, hscan]

/-- It is not looked at if the template cannot be read or scanned. -/
theorem compileWith_of_unscanned {refusal : Failure} (hrefused : p.toIncludePath = .error refusal)
    (hnone : ∀ source, env.readSource tree r = .ok source →
      ∀ d, scanTemplate source.text source.name ≠ .ok d) (q : Directories) :
    env.compileWith tree r (some p) = (env.withIncludePath q).compileWith tree r none := by
  have hread : (env.withIncludePath q).readSource tree { r with includePath := none } =
    env.readSource tree r := rfl
  unfold compileWith compile
  simp only [Option.map_some, hrefused, Option.map_none, hread]
  cases hsource : env.readSource tree r with
  | error failure => rfl
  | ok source =>
    dsimp only
    cases hscan : scanTemplate source.text source.name with
    | error e => rfl
    | ok d => exact absurd hscan (hnone source hsource d)

/-! ## Include paths that nothing is found with -/

/-- No file that is missing when only the current directory is searched is found in the
directories. -/
def AddsNothing (env : Environment) (tree : FileTree) (r : CompileRequest) (p : Directories) :
    Prop :=
  ∀ source d, env.readSource tree r = .ok source → scanTemplate source.text source.name = .ok d →
    ((SearchPath.new p.texts env.encoding true).loader tree).Lacks
      (resolve tree ((SearchPath.new [] env.encoding true).loader tree) d source.origin).warnings

/-- **An include path that nothing is found with makes no difference.** -/
theorem compileWith_eq_of_addsNothing (hloader : env.loader = none)
    (h : env.AddsNothing tree r p) :
    (env.withIncludePath p).compileWith tree r none =
      (env.withIncludePath (.many [])).compileWith tree r none := by
  refine compile_congr rfl fun source d hsource hscan => ?_
  rw [loaderFor_withIncludePath hloader, loaderFor_withIncludePath hloader]
  exact resolve_eq_of_extends
    (SearchPath.loader_append_extends tree [] p.texts env.encoding true) (h source d hsource hscan)

/-! ## Expanding -/

/-- Templates that are compiled alike are expanded alike. -/
theorem expandWith_eq {r : ExpandRequest}
    (h : env.compileWith tree r.toCompile (some p) =
      (env.withIncludePath p).compileWith tree r.toCompile none) (colour : Bool) (heap : Heap)
    (context : List (Text × Value)) :
    env.expandWith colour tree r (some p) heap context =
      (env.withIncludePath p).expandWith colour tree r none heap context := by
  have hconfig : env.configFor { r with includePath := (some p).map fun p => .many p.texts } =
    (env.withIncludePath p).configFor { r with includePath := none } := rfl
  unfold expandWith
  rw [hconfig, h]
  rfl

end Environment

/-- **An include path for one compilation is that of an environment, if several directories are
given.** Let an environment have no loader of its own. Several directories do with a compilation
what they do as its include path. One directory as it is written is taken for the directories that
are called like its characters; this is the same if it is a single character, and if neither the
directory nor its characters have a file that is missing without them. One directory that has been
read is refused, unless the template cannot be read or scanned. Whenever compiling does the same in
both places, so does expanding. -/
theorem include_path_of_call_is_that_of_environment {env : Environment}
    (hloader : env.loader = none) (tree : FileTree) (p : Directories) :
    let given (r : CompileRequest) := env.compileWith tree r (some p)
    let own (p : Directories) (r : CompileRequest) :=
      (env.withIncludePath p).compileWith tree r none
    (∀ ds, p = .many ds → ∀ r, given r = own p r) ∧
    (∀ t, p = .one (.written t) →
      let characters : Directories := .many (t.map fun c => .written [c])
      (∀ r, given r = own characters r) ∧
      ∀ r, t.length = 1 ∨ env.AddsNothing tree r p ∧ env.AddsNothing tree r characters →
        given r = own p r) ∧
    (∀ q, p = .one (.read q) →
      (∀ r source d, env.readSource tree r = .ok source →
        scanTemplate source.text source.name = .ok d →
        given r = ⟨.error Directories.notSeveral, []⟩) ∧
      ∀ r, (∀ source, env.readSource tree r = .ok source →
        ∀ d, scanTemplate source.text source.name ≠ .ok d) → given r = own p r) ∧
    ∀ r : Environment.ExpandRequest, given r.toCompile = own p r.toCompile →
      ∀ colour heap context, env.expandWith colour tree r (some p) heap context =
        (env.withIncludePath p).expandWith colour tree r none heap context := by
  intro given own
  refine ⟨?_, ?_, ?_, fun r hsame => Environment.expandWith_eq hsame⟩
  · rintro ds rfl r
    exact Environment.compileWith_of_toIncludePath hloader rfl rfl
  · rintro t rfl characters
    have hitems : (IncludePath.one t).items = characters.texts := by
      simp [IncludePath.items, characters, Directories.texts, Directory.text]
    have hcharacters (r : CompileRequest) : given r = own characters r :=
      Environment.compileWith_of_toIncludePath hloader rfl hitems
    refine ⟨hcharacters, fun r hr => ?_⟩
    rcases hr with hlength | ⟨hone, hmany⟩
    · obtain ⟨c, rfl⟩ := List.length_eq_one_iff.mp hlength
      exact Environment.compileWith_of_toIncludePath hloader rfl rfl
    · rw [hcharacters]
      exact (Environment.compileWith_eq_of_addsNothing hloader hmany).trans
        (Environment.compileWith_eq_of_addsNothing hloader hone).symm
  · rintro q rfl
    exact ⟨fun r source d => Environment.compileWith_of_refused rfl,
      fun r hnone => Environment.compileWith_of_unscanned rfl hnone _⟩

/-! ## One file in a directory -/

/-- The wiring of a run says where files were looked for; the run does not. -/
theorem run_withDirectories (colour : Bool) (executor : Executor) (escapes : Registry)
    (script : Script) (c : Config) (directories : List Text) (tree : FileTree) (heap : Heap)
    (context : List (Text × Value)) :
    run colour executor escapes script { c with includePath := directories } tree heap context =
      run colour executor escapes script c tree heap context := rfl

/-- A directory with one file. -/
def shelvedTree : FileTree where
  nodes := [(["inc".toList], .directory),
    (["inc".toList, "f".toList], .file ("text".toList.map fun c => UInt8.ofNat c.toNat))]
  current := []

/-- A template that includes the file. -/
def shelvedDocument : Document :=
  ⟨"<string>".toList, [⟨.directive "f".toList, "<string>".toList, 1⟩], "<?include f?>".toList⟩

theorem scanTemplate_shelvedDocument :
    scanTemplate shelvedDocument.source shelvedDocument.name = .ok shelvedDocument :=
  eq_ok_of_toOption (by decide +kernel)

/-- The template is to be expanded. -/
def shelvedRequest : Environment.ExpandRequest :=
  ⟨some shelvedDocument.source, none, .absent, .absent, none, none, none⟩

/-- What the template is expanded to, when it is resolved to one text. -/
theorem expandWith_shelved {p : Directories} {path : IncludePath} {t filename : Text}
    (resolved : Resolved) (hpath : p.toIncludePath = .ok path)
    (hresolve : (resolve shelvedTree (Environment.standard.loaderFor shelvedTree (some path))
      shelvedDocument none).result = .ok resolved)
    (hshown : resolved.document.segments = [⟨.literal t, filename, 1⟩])
    (hgenerate : (generate resolved.document resolved.sources resolved.warnings).isOk = true)
    (hends : ((runPart ⟨.open, .standard, roundLimit⟩ (parts 1 [⟨.literal t, filename, 1⟩]).flatten
      (.start Config.standard.moduleName [] #[])).answer?.any
        fun answer => answer.2.output == t) = true) :
    (Environment.standard.expandWith false shelvedTree shelvedRequest (some p) #[] []).result =
      .ok (some t) := by
  let r : CompileRequest := ⟨shelvedRequest.source, none, some path, none⟩
  have hread : Environment.standard.readSource shelvedTree r =
      .ok ⟨shelvedDocument.source, shelvedDocument.name, none⟩ := rfl
  have hok : (Environment.standard.compile shelvedTree r).result.isOk = true := by
    obtain ⟨script, hscript⟩ := exists_ok_of_isOk hgenerate
    rw [Environment.compile_eq hread scanTemplate_shelvedDocument, hresolve]
    dsimp only
    rw [hscript]
    rfl
  have hsegs : (Environment.standard.resolved? shelvedTree r).map Document.segments =
      some [⟨.literal t, filename, 1⟩] := by
    unfold Environment.resolved?
    rw [hread]
    simp [Except.toOption, scanTemplate_shelvedDocument, hresolve, hshown, r]
  obtain ⟨script, hscript, hrun⟩ := exists_captured_of_any shelvedTree r _ .standard [] t hok hsegs
    hends
  have hconfig : Environment.standard.configFor
      { shelvedRequest with includePath := some (.many p.texts) } =
        .ok { Config.standard with includePath := p.texts } := rfl
  have hcompile : Environment.standard.compileWith shelvedTree shelvedRequest.toCompile (some p) =
      Environment.standard.compile shelvedTree r := by
    unfold Environment.compileWith
    rw [Option.map_some, hpath]
    rfl
  unfold Environment.expandWith
  rw [Option.map_some, hconfig]
  dsimp only
  rw [hcompile, hscript]
  dsimp only
  rw [Environment.run, run_withDirectories]
  exact hrun false shelvedTree

/-- Searched as one of several, the directory gives its file. -/
theorem expandWith_shelved_of_several :
    (Environment.standard.expandWith false shelvedTree shelvedRequest
      (some (.many [.written "inc".toList])) #[] []).result = .ok (some "text".toList) := by
  let loader := Environment.standard.loaderFor shelvedTree (some (.many ["inc".toList]))
  let file : Loaded := ⟨"text".toList, "inc/f".toList⟩
  let place : Location := ["inc".toList, "f".toList]
  let directive : Segment := ⟨.directive "f".toList, shelvedDocument.name, 1⟩
  let x : Segment := ⟨.literal file.text, file.filename, 1⟩
  have hchild : scanTemplate file.text file.filename = .ok ⟨file.filename, [x], file.text⟩ :=
    eq_ok_of_toOption (by decide +kernel)
  have hfile : loader.Finds shelvedTree "f".toList file place := ⟨by cbv, by cbv⟩
  have hpart : spliceSegment shelvedTree loader (splice shelvedTree loader 2) []
      shelvedDocument.name directive = (Fate.spliced directive file place [.kept x]).part none := by
    rw [spliceSegment_of_scanned rfl hfile (by decide) hchild]
    rfl
  have hsplice : splice shelvedTree loader 3 [] shelvedDocument.name shelvedDocument.segments =
      Fate.outcome [.spliced directive file place [.kept x]] none :=
    splice_cons_of_part hpart rfl
  let resolved := (Fate.outcome [.spliced directive file place [.kept x]] none).resolved
    shelvedDocument
  have hresolve : (resolve shelvedTree loader shelvedDocument none).result = .ok resolved := by
    rw [resolve_eq_of_splice (x := Fate.outcome _ none) rfl hsplice]
    rfl
  exact expandWith_shelved resolved rfl hresolve rfl (by decide +kernel) (by decide +kernel)

/-- Taken for its characters, the directory does not give its file. -/
theorem expandWith_shelved_of_characters :
    (Environment.standard.expandWith false shelvedTree shelvedRequest
      (some (.one (.written "inc".toList))) #[] []).result = .ok (some []) := by
  let search := SearchPath.new ["i".toList, "n".toList, "c".toList] Config.usualEncoding true
  let loader := search.loader shelvedTree
  let directive : Segment := ⟨.directive "f".toList, shelvedDocument.name, 1⟩
  let w : IncludeWarning := ⟨shelvedDocument.name, 1, "f".toList, .includeNotFound⟩
  have hfind : search.find? shelvedTree "f".toList = .ok none := by cbv
  have hload : loader.load "f".toList = .error (.notFound (search.notFoundMessage "f".toList)) := by
    show search.load shelvedTree "f".toList = _
    rw [SearchPath.load_of_ne_nil _ _ (by decide), hfind]
  have hsplice : splice shelvedTree loader 3 [] shelvedDocument.name shelvedDocument.segments =
      Fate.outcome [.leftOut directive w] none :=
    splice_cons_of_part (spliceSegment_of_missing rfl hload) rfl
  let resolved := (Fate.outcome [.leftOut directive w] none).resolved shelvedDocument
  have hresolve : (resolve shelvedTree loader shelvedDocument none).result = .ok resolved := by
    rw [resolve_eq_of_splice (x := Fate.outcome _ none) rfl hsplice]
    rfl
  exact expandWith_shelved resolved rfl hresolve rfl (by decide +kernel) (by decide +kernel)

/-- The directory gives its file in both places if it is given as one of several. -/
theorem include_path_of_call_is_that_of_environment_of_several :
    let env := Environment.standard
    let p : Directories := .many [.written "inc".toList]
    (env.expandWith false shelvedTree shelvedRequest (some p) #[] []).result =
        .ok (some "text".toList) ∧
      ((env.withIncludePath p).expandWith false shelvedTree shelvedRequest none #[] []).result =
        .ok (some "text".toList) := by
  intro env p
  obtain ⟨hseveral, -, -, hexpand⟩ :=
    @include_path_of_call_is_that_of_environment env rfl shelvedTree p
  have hsame := hexpand shelvedRequest (hseveral _ rfl _) false #[] []
  refine ⟨expandWith_shelved_of_several, ?_⟩
  rw [← hsame]
  exact expandWith_shelved_of_several

/-- **One directory does not do the same in both places.** With the environment it gives its file.
With a compilation its file is not found if the directory is written, and it is refused if it has
been read. -/
theorem not_include_path_of_call_is_that_of_environment :
    let env := Environment.standard
    let written : Directories := .one (.written "inc".toList)
    let read : Directories := .one (.read (.ofText "inc".toList))
    (∀ p ∈ [written, read],
      ((env.withIncludePath p).expandWith false shelvedTree shelvedRequest none #[] []).result =
        .ok (some "text".toList)) ∧
    (env.expandWith false shelvedTree shelvedRequest (some written) #[] []).result = .ok (some []) ∧
    (env.compileWith shelvedTree shelvedRequest.toCompile (some read)).result =
      .error Directories.notSeveral := by
  intro env written read
  let several : Directories := .many [.written "inc".toList]
  have hown : ((env.withIncludePath several).expandWith false shelvedTree shelvedRequest none
      #[] []).result = .ok (some "text".toList) := by
    rw [← Environment.expandWith_eq (Environment.compileWith_of_toIncludePath rfl rfl rfl)]
    exact expandWith_shelved_of_several
  refine ⟨fun p hp => ?_, expandWith_shelved_of_characters, ?_⟩
  · have htexts : p.texts = several.texts := by
      simp only [List.mem_cons, List.not_mem_nil, or_false] at hp
      rcases hp with rfl | rfl
      · rfl
      · decide
    have hsame : env.withIncludePath p = env.withIncludePath several := by
      unfold Environment.withIncludePath
      rw [htexts]
    rw [hsame]
    exact hown
  · rw [Environment.compileWith_of_refused rfl rfl scanTemplate_shelvedDocument]

end Stencil
