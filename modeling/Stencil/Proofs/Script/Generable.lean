import Stencil.Proofs.Script.Compile

/-!
# Documents that can be made into scripts

A document can be made into a script when each of its segments can, its name can be the name of a
script, and nothing is misused in the statements of the whole. These conditions are all: a document
that meets them is made into a script, and so is a template that leads to such a document.

* `exists_generate_iff`: which documents are made into scripts.
* `Environment.exists_compile_iff`: which templates are.
-/

namespace Stencil

open Code (Stmt)

/-- The segment can be made into statements, and its file can be named in them. -/
def Segment.Generable (s : Segment) : Prop :=
  s.Readable ∧ ∀ t, s.body = .code t → '\x00' ∉ s.filename

/-- The document can be made into a script. -/
structure Document.Generable (d : Document) : Prop where
  segments : ∀ s ∈ d.segments, s.Generable
  name : '\x00' ∉ d.name
  misuse : Code.moduleMisuse? (parts 1 d.segments).flatten = none

/-! ## Drafts -/

namespace Draft

theorem filename_of_add {d d' : Draft} {s : Segment} {t : Text} (h : d.add s = .ok d')
    (hbody : s.body = .code t) : '\x00' ∉ s.filename := by
  intro hnul
  unfold add at h
  simp [hbody, hnul] at h

/-- A segment that can be made into statements is laid out below the draft. -/
theorem add_of_generable (d : Draft) {s : Segment} (h : s.Generable) :
    d.add s = .ok (d.extend [s]) := by
  obtain ⟨hreadable, hname⟩ := h
  suffices hsome : ∃ d', d.add s = .ok d' by
    obtain ⟨d', hd'⟩ := hsome
    obtain ⟨rfl, -⟩ := eq_extend_of_add hd'
    exact hd'
  unfold Segment.Readable at hreadable
  unfold add
  cases hbody : s.body with
  | literal t =>
    cases t with
    | nil => exact ⟨_, rfl⟩
    | cons c t => exact ⟨_, rfl⟩
  | interpolation name style => exact ⟨_, rfl⟩
  | directive path =>
    rw [hbody] at hreadable
    exact hreadable.elim
  | code t =>
    rw [hbody] at hreadable
    have hnul : s.filename.contains '\x00' = false := by simpa using hname t hbody
    have hparse : Code.parse (Block.ofText t s.line).code = .ok s.code := hreadable
    simp only [hnul, hparse]
    cases s.code with
    | nil => exact ⟨_, rfl⟩
    | cons st stmts => exact ⟨_, rfl⟩

/-- The error of a block that is not well-formed: the parser's message, on the line of the block that
the parser gives. -/
theorem add_of_malformed (d : Draft) {s : Segment} {t message : Text} {line : Nat}
    (hbody : s.body = .code t) (hname : '\x00' ∉ s.filename)
    (hparse : Code.parse (Block.ofText t s.line).code = .error (.malformed message line)) :
    d.add s = .error
      (d.syntaxError message (some (s.filename, (Block.ofText t s.line).line + line - 1))) := by
  have hnul : s.filename.contains '\x00' = false := by simpa using hname
  unfold add
  simp only [hbody, hnul, hparse]
  rfl

/-- **The segments that a draft takes are those that can be made into statements.** -/
theorem add_eq_ok_iff {d d' : Draft} {s : Segment} :
    d.add s = .ok d' ↔ s.Generable ∧ d' = d.extend [s] := by
  constructor
  · intro h
    obtain ⟨hd', hreadable⟩ := eq_extend_of_add h
    exact ⟨⟨hreadable, fun t hbody => filename_of_add h hbody⟩, hd'⟩
  · rintro ⟨h, rfl⟩
    exact add_of_generable d h

theorem foldlM_add_eq_ok_iff {d d' : Draft} {ss : List Segment} :
    ss.foldlM Draft.add d = .ok d' ↔ (∀ s ∈ ss, s.Generable) ∧ d' = d.extend ss := by
  induction ss generalizing d with
  | nil =>
    rw [List.foldlM_nil, extend_nil]
    constructor
    · intro h
      exact ⟨by simp, (Except.ok.inj h).symm⟩
    · rintro ⟨-, rfl⟩
      rfl
  | cons s ss ih =>
    rw [List.foldlM_cons, List.forall_mem_cons, extend_cons]
    constructor
    · intro h
      cases hadd : d.add s with
      | error e =>
        rw [hadd] at h
        cases h
      | ok d₁ =>
        obtain ⟨hs, rfl⟩ := add_eq_ok_iff.mp hadd
        rw [hadd] at h
        obtain ⟨hss, hd'⟩ := ih.mp h
        exact ⟨⟨hs, hss⟩, hd'⟩
    · rintro ⟨⟨hs, hss⟩, hd'⟩
      rw [add_of_generable d hs]
      exact ih.mpr ⟨hss, hd'⟩

end Draft

/-! ## Scripts -/

/-- Segments that a draft takes one after the other are added to it. -/
theorem Generation.run_of_foldlM_add {ss : List Segment} {d d' : Draft}
    (h : ss.foldlM Draft.add d = .ok d') : (ss.forM add).run d = (.ok (), d') := by
  induction ss generalizing d with
  | nil =>
    obtain rfl : d = d' := Except.ok.inj h
    rfl
  | cons s ss ih =>
    have hstep : ((s :: ss).forM add).run d = (add s >>= fun _ => ss.forM add).run d := rfl
    rw [hstep, run_bind, run_add]
    rw [List.foldlM_cons] at h
    cases hadd : d.add s with
    | error e =>
      rw [hadd] at h
      cases h
    | ok d₁ =>
      rw [hadd] at h
      exact ih h

/-- **A document is made into a script exactly when it can be.** -/
theorem exists_generate_iff {d : Document} {sources : List (Text × Text)}
    {warnings : List IncludeWarning} :
    (∃ script, generate d sources warnings = .ok script) ↔ d.Generable := by
  constructor
  · rintro ⟨script, h⟩
    have hlaid := laysOut_of_generate h
    unfold generate Generation.script at h
    obtain ⟨_, d₀, hset, h⟩ := Generation.exists_of_bind_eq_ok h
    obtain ⟨_, d₁, hadd, h⟩ := Generation.exists_of_bind_eq_ok h
    obtain ⟨hsegments, -⟩ := Draft.foldlM_add_eq_ok_iff.mp (Generation.foldlM_add_of_run hadd)
    dsimp only at h
    split at h
    · cases h
    · rename_i hname
      exact ⟨hsegments, by simpa using hname, hlaid.body_eq ▸ hlaid.misuse_eq⟩
  · intro h
    let begun := Draft.empty (keptSources d sources)
    have hset : (set begun : Generation PUnit).run (Draft.empty []) = (.ok ⟨⟩, begun) := rfl
    have hadd : (d.segments.forM Generation.add).run begun = (.ok (), begun.extend d.segments) :=
      Generation.run_of_foldlM_add (Draft.foldlM_add_eq_ok_iff.mpr ⟨h.segments, rfl⟩)
    have hget : (get : Generation Draft).run (begun.extend d.segments) =
        (.ok (begun.extend d.segments), begun.extend d.segments) := rfl
    have hmisuse : Code.moduleMisuse? (begun.extend d.segments).body = none := h.misuse
    unfold generate Generation.script
    rw [Generation.run_bind, hset]
    dsimp only
    rw [Generation.run_bind, hadd]
    dsimp only
    rw [if_neg (by simpa using h.name), Generation.run_bind, hget]
    dsimp only
    rw [hmisuse]
    exact ⟨_, rfl⟩

theorem Generation.run_of_foldlM_add_error {ss : List Segment} {d : Draft} {e : GenerateError}
    (h : ss.foldlM Draft.add d = .error e) : ∃ d', (ss.forM add).run d = (.error e, d') := by
  induction ss generalizing d with
  | nil => cases h
  | cons s ss ih =>
    have hstep : ((s :: ss).forM add).run d = (add s >>= fun _ => ss.forM add).run d := rfl
    rw [hstep, run_bind, run_add]
    rw [List.foldlM_cons] at h
    cases hadd : d.add s with
    | error e' =>
      rw [hadd] at h
      cases h
      exact ⟨d, rfl⟩
    | ok d₁ =>
      rw [hadd] at h
      exact ih h

/-- What a finished draft is made into. -/
def Draft.script (draft : Draft) (name : Text) (warnings : List IncludeWarning) :
    Except GenerateError Script :=
  if name.contains '\x00' then .error .nulInName
  else
    match Code.moduleMisuse? draft.body with
    | some misuse => .error (draft.misuseError misuse)
    | none => .ok ⟨name, draft.body, draft.markers, warnings, draft.sources⟩

/-- A script is made by adding the segments to a draft one after the other. -/
theorem generate_eq (d : Document) (sources : List (Text × Text))
    (warnings : List IncludeWarning) :
    generate d sources warnings =
      (d.segments.foldlM Draft.add (.empty (keptSources d sources)) >>= fun draft =>
        draft.script d.name warnings) := by
  let begun := Draft.empty (keptSources d sources)
  have hset : (set begun : Generation PUnit).run (Draft.empty []) = (.ok ⟨⟩, begun) := rfl
  unfold generate Generation.script
  rw [Generation.run_bind, hset]
  dsimp only
  rw [Generation.run_bind]
  cases hfold : d.segments.foldlM Draft.add begun with
  | error e =>
    obtain ⟨d', hrun⟩ := Generation.run_of_foldlM_add_error hfold
    rw [hrun]
    rfl
  | ok draft =>
    have hget : (get : Generation Draft).run draft = (.ok draft, draft) := rfl
    rw [Generation.run_of_foldlM_add hfold]
    show _ = draft.script d.name warnings
    unfold Draft.script
    dsimp only
    split
    · rfl
    · rw [Generation.run_bind, hget]
      dsimp only
      cases Code.moduleMisuse? draft.body with
      | none => rfl
      | some misuse => rfl

/-- The script of a document that can be made into one. -/
theorem generate_of_generable {d : Document} (h : d.Generable) (sources : List (Text × Text))
    (warnings : List IncludeWarning) :
    generate d sources warnings =
      .ok
        { name := d.name
          body := (parts 1 d.segments).flatten
          markers := markersFrom 1 d.segments
          warnings
          sources := keptSources d sources } := by
  have hadd : d.segments.foldlM Draft.add (.empty (keptSources d sources)) =
      .ok ((Draft.empty (keptSources d sources)).extend d.segments) :=
    Draft.foldlM_add_eq_ok_iff.mpr ⟨h.segments, rfl⟩
  have hmisuse : Code.moduleMisuse?
      ((Draft.empty (keptSources d sources)).extend d.segments).body = none := h.misuse
  rw [generate_eq, hadd]
  show Draft.script _ d.name warnings = _
  unfold Draft.script
  rw [if_neg (by simpa using h.name), hmisuse]
  rfl

/-! ## Templates -/

/-- **A template is made into a script exactly when it leads to a document that can be.** -/
theorem Environment.exists_compile_iff {env : Environment} {tree : FileTree} {r : CompileRequest} :
    (∃ script, (env.compile tree r).result = .ok script) ↔
      ∃ d, env.resolved? tree r = some d ∧ d.Generable := by
  unfold compile resolved?
  cases hsource : env.readSource tree r with
  | error failure => simp [Except.toOption]
  | ok source =>
    cases hscan : scanTemplate source.text source.name with
    | error e => simp [hscan, Except.toOption]
    | ok document =>
      cases hresolve :
          (resolve tree (env.loaderFor tree r.includePath) document source.origin).result with
      | error fault => simp [hscan, hresolve, Except.toOption]
      | ok resolved =>
        have hgenerate : (∃ script, generate resolved.document resolved.sources resolved.warnings =
            .ok script) ↔ resolved.document.Generable := exists_generate_iff
        simp only [hscan, hresolve, Except.toOption, Option.bind_eq_bind, Option.bind_some,
          Option.pure_def, Option.some.injEq, exists_eq_left']
        rw [← hgenerate]
        cases generate resolved.document resolved.sources resolved.warnings with
        | error e => simp
        | ok script => simp

end Stencil
