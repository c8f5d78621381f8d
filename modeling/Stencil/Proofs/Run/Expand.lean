import Mathlib
import Stencil.Proofs.Include.Chain
import Stencil.Proofs.Script.Generable

/-!
# Expanding templates that cannot be compiled

A template is compiled before anything of it is run. When the compilation fails, wherever the reason
lies, the caller gets the error and nothing else happens: no code runs, the files stay as they are,
the output gets nothing, and no error sink hears of it.

* `failed_compilations_leave_no_trace`: what expanding does when compiling fails.
-/

namespace Stencil

namespace Environment

variable {env : Environment} {tree : FileTree}

/-! ## Compilations that fail -/

/-- A compilation fails when it leads to no script. -/
theorem exists_failure_iff {r : CompileRequest} :
    (∃ failure, (env.compile tree r).result = .error failure) ↔
      ¬ ∃ script, (env.compile tree r).result = .ok script := by
  cases (env.compile tree r).result with
  | error failure => simp
  | ok script => simp

/-- What stops an included file from being put in its place, at whatever depth, stops the
compilation. -/
theorem exists_failure_of_resolves {r : CompileRequest} {source : SourceText} {d : Document}
    {chain : List Location} {fates : List Fate} {fault : ResolveFault}
    (hsource : env.readSource tree r = .ok source)
    (hscan : scanTemplate source.text source.name = .ok d)
    (hchain : originChain tree source.origin = .ok chain)
    (hresolves : Resolves tree (env.loaderFor tree r.includePath) chain d.name d.segments fates
      (some fault)) :
    ∃ failure, (env.compile tree r).result = .error failure := by
  rw [exists_failure_iff, exists_compile_iff]
  rintro ⟨resolved, hresolved, -⟩
  unfold resolved? at hresolved
  rw [hsource] at hresolved
  simp only [Except.toOption, Option.bind_eq_bind, Option.bind_some, hscan] at hresolved
  cases hresult : (resolve tree (env.loaderFor tree r.includePath) d source.origin).result with
  | error fault' =>
    rw [hresult] at hresolved
    cases hresolved
  | ok r' =>
    -- the relation leads to one outcome, with a fault or without
    obtain ⟨chain', fates', hchain', hresolves', -⟩ := exists_resolves_of_resolve hresult
    obtain rfl := Except.ok.inj (hchain.symm.trans hchain')
    have houtcome := hresolves.outcome_eq hresolves'
    cases congrArg Spliced.fault houtcome

/-- A compilation that fails logs nothing but the directives that were left out. -/
theorem part_of_mem_log {r : CompileRequest} {failure : Failure}
    (h : (env.compile tree r).result = .error failure) :
    ∀ record ∈ (env.compile tree r).log, record.part = .inclusion := by
  unfold compile at h ⊢
  cases hsource : env.readSource tree r with
  | error failure' => simp
  | ok source =>
    simp only [hsource] at h ⊢
    cases hscan : scanTemplate source.text source.name with
    | error e => simp
    | ok document =>
      simp only [hscan] at h ⊢
      have htold (warnings : List IncludeWarning) :
          ∀ record ∈ warnings.map IncludeWarning.record, record.part = .inclusion := by
        intro record hrecord
        obtain ⟨w, -, rfl⟩ := List.mem_map.mp hrecord
        rfl
      cases hresolve :
          (resolve tree (env.loaderFor tree r.includePath) document source.origin).result with
      | error fault => exact htold _
      | ok resolved =>
        simp only [hresolve] at h ⊢
        cases hgenerate : generate resolved.document resolved.sources resolved.warnings with
        | error e => exact htold _
        | ok script =>
          rw [hgenerate] at h
          cases h

/-! ## Expanding -/

/-- When the compilation fails, expanding reports the failure and leaves all as it is. -/
theorem expand_of_failed {r : ExpandRequest} {c : Config} {failure : Failure}
    (hc : env.configFor r = .ok c)
    (h : (env.compile tree r.toCompile).result = .error failure) (colour : Bool) (heap : Heap)
    (context : List (Text × Value)) :
    env.expand colour tree r heap context =
      failed failure tree (env.compile tree r.toCompile).log := by
  unfold expand
  rw [hc]
  dsimp only
  rw [h]

end Environment

/-- **Compilations that fail leave no trace.** Compiling fails exactly when the template does not
lead to a document that can be made into a script: it cannot be read or scanned, or a file included
anywhere cannot, or the code of any block, or all of it together, cannot be made into statements.
Then the caller gets the failure, the files are as before, the output has been written nothing and
the error sink has been handed nothing, and nothing of a run is in the log. All this is the same
whatever executes scripts, whatever the styles, the variables and the sinks are: none of them has
been used. -/
theorem failed_compilations_leave_no_trace {env : Environment} {tree : FileTree}
    {r : Environment.ExpandRequest} {c : Config} (hc : env.configFor r = .ok c) :
    ((∃ failure, (env.compile tree r.toCompile).result = .error failure) ↔
      ¬ ∃ d, env.resolved? tree r.toCompile = some d ∧ d.Generable) ∧
    (∀ source d chain fates fault, env.readSource tree r.toCompile = .ok source →
      scanTemplate source.text source.name = .ok d →
      originChain tree source.origin = .ok chain →
      Resolves tree (env.loaderFor tree r.includePath) chain d.name d.segments fates (some fault) →
      ∃ failure, (env.compile tree r.toCompile).result = .error failure) ∧
    ∀ failure, (env.compile tree r.toCompile).result = .error failure →
      ∀ (colour : Bool) (heap : Heap) (context : List (Text × Value)),
        let report := env.expand colour tree r heap context
        report.result = .error failure ∧ report.tree = tree ∧ report.written = [] ∧
        report.delivered = [] ∧ report.told = [] ∧
        (∀ record ∈ report.log, record.part = .inclusion) ∧
        ∀ (executor : Executor) (escapes : Registry) (output errors : SinkValue)
          (namespaceId : Option Text) (c' : Config) (colour' : Bool) (heap' : Heap)
          (context' : List (Text × Value)),
          let env' : Environment := { env with executor, escapes }
          let r' : Environment.ExpandRequest := { r with output, errors, namespaceId }
          env'.configFor r' = .ok c' → env'.expand colour' tree r' heap' context' = report := by
  refine ⟨?_, fun source d chain fates fault => Environment.exists_failure_of_resolves, ?_⟩
  · rw [Environment.exists_failure_iff, Environment.exists_compile_iff]
  · intro failure h colour heap context report
    have hreport : report = Environment.failed failure tree (env.compile tree r.toCompile).log :=
      Environment.expand_of_failed hc h colour heap context
    rw [hreport]
    refine ⟨rfl, rfl, rfl, rfl, rfl, Environment.part_of_mem_log h, ?_⟩
    intro executor escapes output errors namespaceId c' colour' heap' context' env' r' hc'
    have hsame : env'.compile tree r'.toCompile = env.compile tree r.toCompile := rfl
    rw [Environment.expand_of_failed hc' (hsame ▸ h), hsame]

/-- A template with a good block, which includes a file whose block is never closed, and whose
output would go into a file that has text already. -/
theorem failed_compilations_leave_no_trace_of_open_block :
    let b : Text := "b".toList
    let out : Text := "out".toList
    let env : Environment := { Environment.standard with
      loader := some fun _ => Loader.ofTexts [(b, "x\n<?py y".toList)] }
    let tree : FileTree := ⟨[([out], .file [65])], []⟩
    let r : Environment.ExpandRequest :=
      ⟨some "<?py x = 1 ?><?include b?>".toList, none, .path out, .absent, none, none, none⟩
    let report := env.expand false tree r #[] []
    ∃ c failure, env.configFor r = .ok c ∧
      (env.compile tree r.toCompile).result = .error failure ∧ report.result = .error failure ∧
      report.tree = tree ∧ report.written = [] ∧ report.delivered = [] ∧ report.told = [] := by
  intro b out env tree r report
  let t : Text := "<string>".toList
  let source : SourceText := ⟨"<?py x = 1 ?><?include b?>".toList, t, none⟩
  let x : Segment := ⟨.code " x = 1 ".toList, t, 1⟩
  let d : Document := ⟨t, [x, ⟨.directive b, t, 1⟩], source.text⟩
  let file : Loaded := ⟨"x\n<?py y".toList, b⟩
  let loader := env.loaderFor tree r.includePath
  have hscan : scanTemplate source.text t = .ok d := eq_ok_of_toOption (by decide +kernel)
  have hfile : loader.Finds tree b file [b] := ⟨rfl, by cbv⟩
  have hopen : (scanTemplate file.text file.filename).isOk = false := by decide +kernel
  obtain ⟨fates, fault, hresolves⟩ : ∃ fates fault,
      Resolves tree loader [] t d.segments fates (some fault) := by
    cases hchild : scanTemplate file.text file.filename with
    | ok child =>
      rw [hchild] at hopen
      cases hopen
    | error e => exact ⟨_, _, .kept rfl (.unscanned rfl hfile (by decide) hchild)⟩
  obtain ⟨c, hc⟩ : ∃ c, env.configFor r = .ok c := ⟨_, rfl⟩
  obtain ⟨-, hfails, hreports⟩ := @failed_compilations_leave_no_trace env tree r c hc
  obtain ⟨failure, hfailure⟩ := hfails source d [] fates fault rfl hscan rfl hresolves
  obtain ⟨hresult, htree, hwritten, hdelivered, htold, -⟩ := hreports failure hfailure false #[] []
  exact ⟨c, failure, hc, hfailure, hresult, htree, hwritten, hdelivered, htold⟩

end Stencil
