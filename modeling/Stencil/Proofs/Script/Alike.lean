import Mathlib.Data.List.Forall2
import Stencil.Proofs.Script.Generable

/-!
# Documents that differ in places

The statements of a script come from what its segments are; where the segments stand only goes into
the markers. Documents whose segments differ in their files and lines alone are therefore made into
scripts with the same statements, or into none for the same reason.

* `generate_alike`: the statements of such documents.
-/

namespace Stencil

/-! ## Errors without places -/

/-- The error without the place that it is about. -/
def CompileError.unplaced (e : CompileError) : CompileError :=
  { e with line := none, filename := none, column := none, snippet := none }

/-- The error without the place that it is about. -/
def GenerateError.unplaced : GenerateError → GenerateError
  | .syntaxError e => .syntaxError e.unplaced
  | .unresolved path _ _ => .unresolved path [] 0
  | e => e

/-- The failure without the place that it is about. -/
def Failure.unplaced : Failure → Failure
  | .template (.compile e) => .template (.compile e.unplaced)
  | .refused e => .refused e.unplaced
  | failure => failure

theorem Failure.unplaced_ofGenerate (e : GenerateError) :
    (Failure.ofGenerate e).unplaced = .ofGenerate e.unplaced := by
  cases e <;> rfl

/-! ## Segments and drafts -/

/-- The segments differ at most in where they stand, and the files of both can be named in a script
or those of none. -/
structure Segment.Alike (s s' : Segment) : Prop where
  body_eq : s.body = s'.body
  named_iff : '\x00' ∈ s.filename ↔ '\x00' ∈ s'.filename

namespace Segment

theorem Alike.refl (s : Segment) : s.Alike s := ⟨rfl, Iff.rfl⟩

theorem Alike.path?_eq {s s' : Segment} (h : s.Alike s') : s.path? = s'.path? := by
  rw [path?, path?, h.body_eq]

theorem forall₂_alike_refl (ss : List Segment) : List.Forall₂ Alike ss ss :=
  List.forall₂_same.mpr fun s _ => .refl s

end Segment

/-- The code of a block is the same wherever the block stands. -/
theorem Block.code_ofText (t : Text) (line line' : Int) :
    (Block.ofText t line).code = (Block.ofText t line').code := by
  unfold Block.ofText
  split
  · rfl
  · split <;> rfl

namespace Draft

/-- The drafts have the same statements. -/
structure Alike (d d' : Draft) : Prop where
  body_eq : d.body = d'.body
  next_eq : d.next = d'.next

/-- Two attempts at a draft end in the same statements, or fail for the same reason. -/
inductive AlikeResults : Except GenerateError Draft → Except GenerateError Draft → Prop where
  | ok {d d' : Draft} (h : d.Alike d') : AlikeResults (.ok d) (.ok d')
  | error {e e' : GenerateError} (h : e.unplaced = e'.unplaced) :
    AlikeResults (.error e) (.error e')

variable {d d' : Draft} {s s' : Segment}

theorem unplaced_syntaxError (d d' : Draft) (message : Text) (place place' : Option (Text × Int)) :
    (d.syntaxError message place).unplaced = (d'.syntaxError message place').unplaced := rfl

theorem unplaced_misuseError (d d' : Draft) (misuse : Code.Misuse) :
    (d.misuseError misuse).unplaced = (d'.misuseError misuse).unplaced := by
  cases misuse <;> rfl

theorem Alike.place (h : d.Alike d') (stmt : Nat → Code.Stmt) :
    (d.place stmt s).Alike (d'.place stmt s') := by
  obtain ⟨hbody, hnext⟩ := h
  exact ⟨by simp only [Draft.place, hbody, hnext], by simp only [Draft.place, hnext]⟩

theorem Alike.placeBlock (h : d.Alike d') (filename filename' : Text) {b b' : Block}
    (hcode : b.code = b'.code) (stmts : List Code.Stmt) :
    (d.placeBlock filename b stmts).Alike (d'.placeBlock filename' b' stmts) := by
  obtain ⟨hbody, hnext⟩ := h
  exact ⟨by simp only [Draft.placeBlock, hbody, hnext],
    by simp only [Draft.placeBlock, hnext, Block.height, hcode]⟩

/-- Adding segments that are alike keeps drafts alike. -/
theorem alikeResults_add (h : d.Alike d') (hs : s.Alike s') :
    AlikeResults (d.add s) (d'.add s') := by
  unfold add
  rw [← hs.body_eq]
  cases s.body with
  | literal t =>
    cases t with
    | nil => exact .ok h
    | cons c t => exact .ok (h.place _)
  | interpolation name style => exact .ok (h.place _)
  | directive path => exact .error rfl
  | code t =>
    have hnamed : s.filename.contains '\x00' = s'.filename.contains '\x00' := by
      rw [Bool.eq_iff_iff]
      simpa using hs.named_iff
    have hcode := Block.code_ofText t s.line s'.line
    dsimp only
    rw [hnamed, hcode]
    split
    · exact .error rfl
    · cases Code.parse (Block.ofText t s'.line).code with
      | error e =>
        cases e with
        | nul => exact .error rfl
        | malformed message line => exact .error (unplaced_syntaxError ..)
      | ok stmts =>
        cases stmts with
        | nil => exact .ok h
        | cons st stmts => exact .ok (h.placeBlock _ _ hcode _)

theorem alikeResults_foldlM {ss ss' : List Segment} (h : d.Alike d')
    (hss : List.Forall₂ Segment.Alike ss ss') :
    AlikeResults (ss.foldlM add d) (ss'.foldlM add d') := by
  induction hss generalizing d d' with
  | nil => exact .ok h
  | @cons s s' ss ss' hs _ ih =>
    have hstep := alikeResults_add h hs
    rw [List.foldlM_cons, List.foldlM_cons]
    generalize d.add s = x, d'.add s' = x' at hstep
    cases hstep with
    | ok h => exact ih h
    | error h => exact .error h

end Draft

/-! ## Scripts -/

/-- The statements that something leads to, or why there are none, wherever that may be. -/
def Script.statements (x : Except GenerateError Script) : Except GenerateError (List Code.Stmt) :=
  (x.map Script.body).mapError GenerateError.unplaced

theorem Draft.statements_script {d d' : Draft} (h : d.Alike d') (name : Text)
    (warnings warnings' : List IncludeWarning) :
    Script.statements (d.script name warnings) = Script.statements (d'.script name warnings') := by
  unfold Draft.script
  rw [h.body_eq]
  split
  · rfl
  · split
    · exact congrArg Except.error (unplaced_misuseError d d' _)
    · rfl

/-- **Documents that differ in places have the same statements**, or none for the same reason. -/
theorem generate_alike {d d' : Document} (hname : d.name = d'.name)
    (h : List.Forall₂ Segment.Alike d.segments d'.segments) (sources sources' : List (Text × Text))
    (warnings warnings' : List IncludeWarning) :
    Script.statements (generate d sources warnings) =
      Script.statements (generate d' sources' warnings') := by
  have hdrafts : (Draft.empty (keptSources d sources)).Alike
      (.empty (keptSources d' sources')) := ⟨rfl, rfl⟩
  have hadded := Draft.alikeResults_foldlM hdrafts h
  rw [generate_eq, generate_eq, hname]
  generalize d.segments.foldlM Draft.add _ = x, d'.segments.foldlM Draft.add _ = x' at hadded
  cases hadded with
  | ok h => exact Draft.statements_script h _ _ _
  | error h => exact congrArg Except.error h

end Stencil
