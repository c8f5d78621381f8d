import Stencil.Proofs.Script.Layout

/-!
# Compiled scripts

Compiling a template reads and scans it, puts the included files in the places of the directives,
and generates a script from the document that comes out.

* `exists_laysOut_of_compile`: the script of a compilation lays out a document.
-/

namespace Stencil

namespace Environment

variable {env : Environment} {tree : FileTree} {r : CompileRequest}

/-- A text that is given needs no file. -/
theorem readSource_of_source {t : Text} (hsource : r.source = some t)
    (hfile : r.sourceFile = none) :
    env.readSource tree r = .ok ⟨t, reportedOr r.reportedName "<string>".toList, none⟩ := by
  unfold readSource
  rw [hsource, hfile]

theorem not_nul_reportedOr {given : Option Text} (h : ∀ name ∈ given, '\x00' ∉ name) :
    '\x00' ∉ reportedOr given "<string>".toList := by
  unfold reportedOr
  cases hgiven : given.filter (! ·.isEmpty) with
  | none => decide
  | some name => exact h name (Option.filter_eq_some_iff.mp hgiven).1

/-- How a template that is read and scanned is compiled. -/
theorem compile_eq {source : SourceText} {d : Document} (hread : env.readSource tree r = .ok source)
    (hscan : scanTemplate source.text source.name = .ok d) :
    (env.compile tree r).result =
      match (resolve tree (env.loaderFor tree r.includePath) d source.origin).result with
      | .error fault => .error (.ofResolve fault)
      | .ok resolved =>
        (generate resolved.document resolved.sources resolved.warnings).mapError .ofGenerate := by
  unfold compile
  rw [hread]
  dsimp only
  rw [hscan]
  dsimp only
  cases (resolve tree (env.loaderFor tree r.includePath) d source.origin).result with
  | error fault => rfl
  | ok resolved =>
    dsimp only
    cases generate resolved.document resolved.sources resolved.warnings <;> rfl

end Environment

/-- The document that a request leads to, with the included files in place. -/
def Environment.resolved? (env : Environment) (tree : FileTree) (r : CompileRequest) :
    Option Document := do
  let source ← (env.readSource tree r).toOption
  let document ← (scanTemplate source.text source.name).toOption
  let loader := env.loaderFor tree r.includePath
  let resolved ← (resolve tree loader document source.origin).result.toOption
  return resolved.document

/-- A compilation that succeeds lays out the document that its request leads to. -/
theorem exists_laysOut_of_compile {env : Environment} {tree : FileTree} {r : CompileRequest}
    {script : Script} (h : (env.compile tree r).result = .ok script) :
    ∃ d, env.resolved? tree r = some d ∧ script.LaysOut d := by
  rw [Environment.compile] at h
  cases hsource : env.readSource tree r with
  | error failure => simp [hsource] at h
  | ok source =>
    simp only [hsource] at h
    cases hscan : scanTemplate source.text source.name with
    | error e => simp [hscan] at h
    | ok document =>
      simp only [hscan] at h
      cases hresolve :
          (resolve tree (env.loaderFor tree r.includePath) document source.origin).result with
      | error fault => simp [hresolve] at h
      | ok resolved =>
        simp only [hresolve] at h
        cases hgenerate : generate resolved.document resolved.sources resolved.warnings with
        | error e => simp [hgenerate] at h
        | ok made =>
          simp only [hgenerate, Except.ok.injEq] at h
          refine ⟨resolved.document, ?_, laysOut_of_generate (h ▸ hgenerate)⟩
          simp [Environment.resolved?, hsource, hscan, hresolve, Except.toOption]

/-- A compilation that is known to succeed, with the segments that it leads to. -/
theorem exists_laysOut_of_isOk {env : Environment} {tree : FileTree} {r : CompileRequest}
    {segs : List Segment} (hok : (env.compile tree r).result.isOk = true)
    (hsegs : (env.resolved? tree r).map Document.segments = some segs) :
    ∃ script d, (env.compile tree r).result = .ok script ∧ env.resolved? tree r = some d ∧
      script.LaysOut d ∧ d.segments = segs := by
  cases hscript : (env.compile tree r).result with
  | error failure =>
    rw [hscript] at hok
    cases hok
  | ok script =>
    obtain ⟨d, hd, hlaid⟩ := exists_laysOut_of_compile hscript
    rw [hd] at hsegs
    exact ⟨script, d, rfl, hd, hlaid, Option.some.inj hsegs⟩

end Stencil
