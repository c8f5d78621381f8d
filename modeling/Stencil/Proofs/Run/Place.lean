import Stencil.Proofs.Run.Refine
import Stencil.Proofs.Script.Extent
import Stencil.Proofs.Script.Markers

/-!
# Where errors are placed

An error that stops a run was raised on a line of the script. That line belongs to one of the segments
that the script was compiled from, and the error is reported in the file of that segment, on the line
on which this part of the segment was written.

* `exists_segment_of_raised`: the line of an error belongs to a segment.
* `run_places_error`: the place of the error that a run reports.
-/

namespace Stencil

open Code (Stmt)

/-! ## Lines of errors -/

/-- No cell of the heap is a function. -/
def Heap.WithoutFunctions (heap : Heap) : Prop := ∀ ref, heap.function? ref = none

theorem Heap.mapLines_of_withoutFunctions {heap : Heap} (h : heap.WithoutFunctions)
    (f : Nat → Nat) : heap.mapLines f = heap := by
  apply Array.ext_getElem?
  intro ref
  have href := h ref
  rw [Heap.getElem?_mapLines]
  rw [Heap.function?] at href
  cases hcell : heap[ref]? with
  | none => rfl
  | some cell =>
    rw [hcell] at href
    cases cell with
    | function c => cases href
    | _ => rfl

/-- Leaves the lines from 1 up to a number alone, and no other. -/
def moveOthers (height line : Nat) : Nat :=
  if 1 ≤ line ∧ line ≤ height then line else line + 1

theorem moveOthers_eq_self_iff (height line : Nat) :
    moveOthers height line = line ↔ 1 ≤ line ∧ line ≤ height := by
  rw [moveOthers]
  split <;> omega

/-- **The line of an error belongs to a segment**, if all functions come from the script. -/
theorem exists_segment_of_raised {script : Script} {d : Document} (h : script.LaysOut d)
    (hpaired : ∀ seg ∈ d.segments, seg.ReturnsPaired) {s : Setting} {m m' : Machine}
    (hheap : m.heap.WithoutFunctions) {e : Thrown} {line : Nat}
    (hrun : runPart s script.body m = .raised e line m') :
    ∃ first seg k, (first, seg) ∈ layout 1 d.segments ∧ k < seg.height ∧ line = first + k := by
  let height := totalHeight d.segments
  let f := moveOthers height
  have hfixes : Fixes f 1 height := fun line hlow hhigh =>
    (moveOthers_eq_self_iff height line).mpr ⟨hlow, by omega⟩
  have hbody : Stmt.mapLinesAll f script.body = script.body := by
    rw [h.body_eq]
    exact mapLinesAll_flatten_parts le_rfl h.readable
      (fun seg hseg => (hpaired seg hseg).readInPlace) hfixes
  have hstart : m.mapLines f = m := by
    rw [Machine.mapLines, Heap.mapLines_of_withoutFunctions hheap]
  -- the run is its own renumbered form, so the renumbering leaves its line alone
  have hsame : runScript s script.body m = (runScript s script.body m).mapLines f := by
    rw [← runScript_mapLines, hbody, hstart]
  rw [runPart_raised_iff.mp hrun] at hsame
  obtain ⟨-, hline, -⟩ := Outcome.raised.inj hsame
  obtain ⟨hlow, hhigh⟩ := (moveOthers_eq_self_iff height line).mp hline.symm
  exact exists_mem_layout hlow (by omega)

/-! ## Outcomes -/

/-- The error that stopped an action, its line, and the state that it left. -/
def Outcome.error? {α : Type} : Outcome α → Option (Thrown × Nat × Machine)
  | .raised e line m => some (e, line, m)
  | _ => none

/-- What an action gave, and the state that it left. -/
def Outcome.answer? {α : Type} : Outcome α → Option (α × Machine)
  | .done a m => some (a, m)
  | _ => none

theorem Outcome.eq_raised_of_error? {α : Type} {o : Outcome α} {e : Thrown} {line : Nat}
    {m : Machine} (h : o.error? = some (e, line, m)) : o = .raised e line m := by
  cases o with
  | raised e' line' m' => simpa [Outcome.error?] using h
  | done a m' => cases h
  | exhausted m' => cases h

theorem Outcome.eq_done_of_answer? {α : Type} {o : Outcome α} {a : α} {m : Machine}
    (h : o.answer? = some (a, m)) : o = .done a m := by
  cases o with
  | done a' m' => simpa [Outcome.answer?] using h
  | raised e line m' => cases h
  | exhausted m' => cases h

/-! ## Reports -/

/-- The report carries what a delivery does. -/
def Report.Carries (report : Report) (d : Delivery) : Prop :=
  report.delivered = d.delivered ∧ report.told = d.told ∧
    report.result =
      match d.failure with
      | some failure => .error failure
      | none => .ok none

/-- The name under which an error in a file is reported. -/
def reportedName (c : Config) (script : Script) (filename : Text) : Text :=
  if filename = script.name then Environment.reportedOr c.reportedFilename filename else filename

theorem templateName_executionError {script : Script} {c : Config} {line : Nat} {cause : Cause}
    {reason filename : Text} {authored : Int}
    (h : script.locate line = some (filename, authored)) :
    (executionError script c line cause reason).templateName =
      some (reportedName c script filename) := by
  rw [executionError, locateFailure, h, reportedName, Environment.reportedOr]
  dsimp only
  by_cases hname : filename = script.name
  · simp [hname]
  · have hnone : (c.reportedFilename.filter fun t => ! t.isEmpty && filename == script.name) =
        none := by
      simp [hname]
    rw [hnone, if_neg hname]
    rfl

theorem line_executionError {script : Script} {c : Config} {line : Nat} {cause : Cause}
    {reason filename : Text} {authored : Int}
    (h : script.locate line = some (filename, authored)) :
    (executionError script c line cause reason).line = some authored := by
  rw [executionError, locateFailure, h]

section Settle

variable {s : Setting} {script : Script} {c : Config} {e : Thrown} {line : Nat} {m m' : Machine}

/-- What follows an ordinary error whose text can be computed. -/
theorem settle_eq {reason : Text} (colour : Bool)
    (hordinary : isOrdinary m.heap (c.output.errorOf e) = true)
    (hdescribe : describe s (c.output.errorOf e) m = .done reason m') :
    settle colour s script c e line m =
      (c.errors.deliver colour
        (executionError script c line
          ⟨m'.heap.typeName (c.output.errorOf e), .error (c.output.errorOf e)⟩ reason), m') := by
  rw [settle]
  simp [hordinary, hdescribe]

/-- An error that comes up while another one is described is passed on in its place. -/
theorem settle_of_undescribed {e' : Thrown} {line' : Nat} (colour : Bool)
    (hordinary : isOrdinary m.heap (c.output.errorOf e) = true)
    (hdescribe : describe s (c.output.errorOf e) m = .raised e' line' m') :
    settle colour s script c e line m =
      (⟨some (passOn s (c.output.errorOf e') m').1, [], [], []⟩, m') := by
  rw [settle]
  simp [hordinary, hdescribe]

theorem settle_of_exhausted (colour : Bool)
    (hordinary : isOrdinary m.heap (c.output.errorOf e) = true)
    (hdescribe : describe s (c.output.errorOf e) m = .exhausted m') :
    settle colour s script c e line m = (⟨some .exhausted, [], [], []⟩, m') := by
  rw [settle]
  simp [hordinary, hdescribe]

/-- An error that is not meant to be caught is passed on. -/
theorem settle_of_not_ordinary (colour : Bool)
    (hordinary : isOrdinary m.heap (c.output.errorOf e) = false) :
    settle colour s script c e line m =
      (⟨some (passOn s (c.output.errorOf e) m).1, [], [], []⟩, m) := by
  rw [settle]
  simp [hordinary]

variable {executor : Executor} {escapes : Registry} {o : OpenSink} {heap : Heap}
  {context : List (Text × Value)}

/-- The report of a run that is stopped by an error. -/
theorem runInto_of_settle {d : Delivery} (colour : Bool)
    (hrun : executor ⟨o.outlet, escapes, roundLimit⟩ script
      ⟨newNamespace c.moduleName context, heap, [], []⟩ = .raised e line m)
    (hsettle : settle colour ⟨o.outlet, escapes, roundLimit⟩ script c e line m = (d, m')) :
    let report := runInto colour executor escapes script c o heap context
    report.Carries d ∧ report.written = m'.output ∧ report.tree = o.close m'.output := by
  intro report
  have hreport : report = runInto colour executor escapes script c o heap context := rfl
  unfold runInto at hreport
  simp only [hrun, hsettle] at hreport
  rw [hreport]
  exact ⟨⟨rfl, rfl, by cases d.failure <;> rfl⟩, rfl, rfl⟩

theorem runInto_carries {reason : Text} (colour : Bool)
    (hrun : executor ⟨o.outlet, escapes, roundLimit⟩ script
      ⟨newNamespace c.moduleName context, heap, [], []⟩ = .raised e line m)
    (hordinary : isOrdinary m.heap (c.output.errorOf e) = true)
    (hdescribe : describe ⟨o.outlet, escapes, roundLimit⟩ (c.output.errorOf e) m =
      .done reason m') :
    (runInto colour executor escapes script c o heap context).Carries
      (c.errors.deliver colour
        (executionError script c line
          ⟨m'.heap.typeName (c.output.errorOf e), .error (c.output.errorOf e)⟩ reason)) :=
  (runInto_of_settle colour hrun (settle_eq colour hordinary hdescribe)).1

end Settle

theorem run_eq_runInto {c : Config} {tree : FileTree} {sink : OpenSink}
    (h : (c.output.open tree c.encoding).2 = .ok sink) (colour : Bool) (executor : Executor)
    (escapes : Registry) (script : Script) (heap : Heap) (context : List (Text × Value)) :
    run colour executor escapes script c tree heap context =
      runInto colour executor escapes script c sink heap context := by
  rw [run]
  rcases hopen : c.output.open tree c.encoding with ⟨tree', failure | opened⟩
  · rw [hopen] at h
    cases h
  · rw [hopen] at h
    cases h
    rfl

/-- The report of a run that is done. -/
theorem runInto_of_done {executor : Executor} {escapes : Registry} {script : Script} {c : Config}
    {sink : OpenSink} {heap : Heap} {context : List (Text × Value)} {m : Machine}
    (hrun : executor ⟨sink.outlet, escapes, roundLimit⟩ script
      ⟨newNamespace c.moduleName context, heap, [], []⟩ = .done () m) (colour : Bool) :
    runInto colour executor escapes script c sink heap context =
      { result :=
          .ok <|
            match c.output with
            | .captured => some m.output
            | _ => none
        written := m.output, delivered := [], told := [], tree := sink.close m.output
        log := runningRecord script c :: m.log.reverse } := by
  unfold runInto
  simp only [hrun]
  cases c.output <;> rfl

/-- A run that is done, with its output captured. -/
theorem run_captured_of_done {executor : Executor} {escapes : Registry} {script : Script}
    {c : Config} {heap : Heap} {context : List (Text × Value)} {m : Machine}
    (hcaptured : c.output = .captured)
    (hdone : executor ⟨.open, escapes, roundLimit⟩ script
      ⟨newNamespace c.moduleName context, heap, [], []⟩ = .done () m)
    (colour : Bool) (tree : FileTree) :
    run colour executor escapes script c tree heap context =
      { result := .ok (some m.output), written := m.output, delivered := [], told := [], tree
        log := runningRecord script c :: m.log.reverse } := by
  let sink : OpenSink := ⟨.open, fun _ => tree⟩
  have hopen : (c.output.open tree c.encoding).2 = .ok sink := by
    rw [hcaptured]
    rfl
  have hinto : runInto colour executor escapes script c sink heap context = _ :=
    runInto_of_done hdone colour
  rw [run_eq_runInto hopen, hinto, hcaptured]

/-- A template whose code comes to its end, and the text that is captured. -/
theorem exists_captured_of_any (tree : FileTree) (r : CompileRequest) (segs : List Segment)
    (escapes : Registry) (context : List (Text × Value)) (t : Text)
    (hok : (Environment.standard.compile tree r).result.isOk = true)
    (hsegs : (Environment.standard.resolved? tree r).map Document.segments = some segs)
    (hends : ((runPart ⟨.open, escapes, roundLimit⟩ (parts 1 segs).flatten
      (.start Config.standard.moduleName context #[])).answer?.any
        fun answer => answer.2.output == t) = true) :
    ∃ script, (Environment.standard.compile tree r).result = .ok script ∧
      ∀ colour files, (run colour .standard escapes script .standard files #[] context).result =
        .ok (some t) := by
  obtain ⟨script, d, hscript, -, hlaid, rfl⟩ := exists_laysOut_of_isOk hok hsegs
  obtain ⟨⟨⟨⟩, m⟩, hanswer, htext⟩ := (Option.any_eq_true _ _).mp hends
  rw [← hlaid.body_eq, ← standard_eq_runPart] at hanswer
  refine ⟨script, hscript, fun colour files => ?_⟩
  have hreport := run_captured_of_done (c := .standard) rfl (Outcome.eq_done_of_answer? hanswer)
    colour files
  rw [hreport, beq_iff_eq.mp htext]

end Stencil
