import Stencil.Proofs.Lockstep.Look
import Stencil.Proofs.Run.Inert
import Stencil.Proofs.Run.Sinks

/-!
# Variables that have the names of helpers

The names of a run are bound in steps: its own names, the variables of the caller, the helper that
escapes, and the helpers that write. Of two values under one name the later one counts, so when code
starts it finds the helpers, whatever the caller has bound to their names. What the caller has bound
there is nowhere else to be found; runs for two callers that differ in nothing else are one run.

* `lookup_helper_start`: the helpers, at the start of a run.
* `standard_looksLike`, `settle_looksLike`: the code of a run, and what follows an error.
* `helpers_cannot_be_overridden`: the reports of two runs.
-/

namespace Stencil

/-- The helpers, by name. -/
def helpers : List (Text × Value) := ("_escape".toList, .builtin .escape) :: outputHelpers

/-- Two callers bind the same values to all names that are not those of helpers. -/
structure SameButHelpers (context context' : List (Text × Value)) : Prop where
  boundIn_eq : ∀ name, name ∉ helperNames → boundIn context name = boundIn context' name

/-- A caller who binds names of helpers as well. -/
theorem sameButHelpers_append (context : List (Text × Value)) {more : List (Text × Value)}
    (h : ∀ name ∈ more.map Prod.fst, name ∈ helperNames) :
    SameButHelpers (context ++ more) context := by
  refine ⟨fun name hname => ?_⟩
  have happend : boundIn (context ++ more) name = (bindAll (bindAll [] context) more).lookup name := by
    rw [boundIn, bindAll, List.foldl_append]
    rfl
  rw [happend, lookup_bindAll, boundIn_eq_none fun hmem => hname (h name hmem), Option.none_or]
  rfl

/-! ## The start of a run -/

/-- Code finds every helper at first, whatever the caller has bound to its name. -/
theorem lookup_helper_start {helper : Text × Value} (h : helper ∈ helpers) (moduleName : Text)
    (context : List (Text × Value)) (heap : Heap) :
    (Machine.start moduleName context heap).globals.lookup helper.1 = some helper.2 := by
  have houtput : ∀ helper ∈ outputHelpers, boundIn outputHelpers helper.1 = some helper.2 := by
    simp only [outputHelpers, List.forall_mem_cons, List.not_mem_nil, false_imp_iff,
      implies_true, and_true]
    exact ⟨rfl, rfl, rfl, rfl⟩
  rcases List.mem_cons.mp h with rfl | h
  · exact lookup_escape_start moduleName context heap
  · rw [Machine.start, lookup_bindAll, houtput helper h, Option.some_or]

theorem start_looksLike {context context' : List (Text × Value)}
    (h : SameButHelpers context context') (moduleName : Text) (heap : Heap) :
    (Machine.start moduleName context heap).LooksLike (.start moduleName context' heap) := by
  refine ⟨fun name => ?_, rfl, rfl, rfl⟩
  by_cases hname : name ∈ helperNames
  · obtain ⟨helper, hhelper, rfl⟩ : ∃ helper ∈ helpers, helper.1 = name := List.mem_map.mp hname
    rw [lookup_helper_start hhelper, lookup_helper_start hhelper]
  · rw [lookup_start hname, lookup_start hname, h.boundIn_eq name hname]

/-! ## Runs -/

theorem standard_looksLike {context context' : List (Text × Value)}
    (h : SameButHelpers context context') (s : Setting) (script : Script) (moduleName : Text)
    (heap : Heap) :
    (Executor.standard s script ⟨newNamespace moduleName context, heap, [], []⟩).Match
      Machine.LooksLike id id
      (Executor.standard s script ⟨newNamespace moduleName context', heap, [], []⟩) :=
  (runScript_looksLike s script.body).andReturn () (start_looksLike h moduleName heap)

section

variable {m m' : Machine} (h : m.LooksLike m')

include h

theorem passOn_looksLike (s : Setting) (error : Value) :
    (passOn s error m').1 = (passOn s error m).1 := by
  have htext := Lockstep.same_currentText_callTop (L := Lockstep.look) rfl s error h
  unfold passOn
  generalize currentText (callTop s) 0 error m = o, currentText (callTop s) 0 error m' = o' at htext
  cases htext with
  | done t h => simp only [h.heap_eq]
  | raised e line h => simp only [h.heap_eq]
  | exhausted h => simp only [h.heap_eq]

/-- What follows an error is the same, and it leaves states that look the same. -/
theorem settle_looksLike (colour : Bool) (s : Setting) (script : Script) (c : Config) (e : Thrown)
    (line : Nat) :
    (settle colour s script c e line m').1 = (settle colour s script c e line m).1 ∧
      (settle colour s script c e line m).2.LooksLike (settle colour s script c e line m').2 := by
  have hdescribe := Lockstep.same_describe_of_zero (L := Lockstep.look) rfl s (c.output.errorOf e) h
  unfold settle
  simp only [h.heap_eq]
  split
  · exact ⟨by rw [passOn_looksLike h], h⟩
  · generalize describe s (c.output.errorOf e) m = o, describe s (c.output.errorOf e) m' = o'
      at hdescribe
    cases hdescribe with
    | done reason h => exact ⟨by simp only [h.heap_eq], h⟩
    | raised e' line' h => exact ⟨by simp only [passOn_looksLike h], h⟩
    | exhausted h => exact ⟨rfl, h⟩

end

theorem runInto_eq_of_sameButHelpers {context context' : List (Text × Value)}
    (h : SameButHelpers context context') (colour : Bool) (escapes : Registry) (script : Script)
    (c : Config) (sink : OpenSink) (heap : Heap) :
    runInto colour .standard escapes script c sink heap context' =
      runInto colour .standard escapes script c sink heap context := by
  have hruns := standard_looksLike h ⟨sink.outlet, escapes, roundLimit⟩ script c.moduleName heap
  unfold runInto
  dsimp only
  generalize Executor.standard _ script ⟨newNamespace c.moduleName context, heap, [], []⟩ = o,
    Executor.standard _ script ⟨newNamespace c.moduleName context', heap, [], []⟩ = o' at hruns ⊢
  cases hruns with
  | done a h => simp only [h.output_eq, h.log_eq]
  | raised e line h =>
    obtain ⟨hdelivery, hleft⟩ :=
      settle_looksLike h colour ⟨sink.outlet, escapes, roundLimit⟩ script c e line
    simp only [id, hdelivery, hleft.output_eq, hleft.log_eq]
  | exhausted h => simp only [h.output_eq, h.log_eq]

theorem run_eq_of_sameButHelpers {context context' : List (Text × Value)}
    (h : SameButHelpers context context') (colour : Bool) (escapes : Registry) (script : Script)
    (c : Config) (tree : FileTree) (heap : Heap) :
    run colour .standard escapes script c tree heap context' =
      run colour .standard escapes script c tree heap context := by
  simp only [run, runInto_eq_of_sameButHelpers h]

/-- **Helpers cannot be overridden by the caller.** With the standard executor, two callers that bind
the same values to all names but those of helpers get the same report for every script and every
wiring: the same answer or failure, the same text in the sink, the same errors delivered, the same
files and the same log; and the same for every template that is expanded. When the code of a run
starts, every helper is bound under its name, whatever the caller has bound there. -/
theorem helpers_cannot_be_overridden {env : Environment} (hexecutor : env.executor = .standard)
    {context context' : List (Text × Value)} (h : SameButHelpers context context') (colour : Bool)
    (tree : FileTree) (heap : Heap) :
    (∀ script c, env.run colour tree script c heap context =
      env.run colour tree script c heap context') ∧
    (∀ r, env.expand colour tree r heap context = env.expand colour tree r heap context') ∧
    ∀ moduleName, ∃ m,
      Action.bindOutput ⟨newNamespace moduleName context, heap, [], []⟩ = .done () m ∧
        ∀ helper ∈ helpers, m.globals.lookup helper.1 = some helper.2 := by
  have hrun (script : Script) (c : Config) : env.run colour tree script c heap context =
      env.run colour tree script c heap context' := by
    rw [Environment.run, Environment.run, hexecutor]
    exact (run_eq_of_sameButHelpers h colour env.escapes script c tree heap).symm
  refine ⟨hrun, fun r => ?_, fun moduleName => ?_⟩
  · simp only [Environment.expand, hrun]
  · exact ⟨_, rfl, fun helper hhelper => lookup_helper_start hhelper moduleName context heap⟩

/-- A caller who binds every name of a helper to `None`, and a template that prints and escapes. -/
theorem helpers_cannot_be_overridden_of_none :
    let context : List (Text × Value) := [("x".toList, .text "<".toList)]
    let more : List (Text × Value) := helperNames.map fun name => (name, .none)
    let r : CompileRequest :=
      ⟨some "<?py print('b') ?>\x7b$x\x7d".toList, none, none, none⟩
    ∃ script, (Environment.standard.compile ⟨[], []⟩ r).result = .ok script ∧
      Environment.standard.executor = .standard ∧ SameButHelpers (context ++ more) context ∧
      let report := Environment.standard.run false ⟨[], []⟩ script .standard #[]
      report (context ++ more) = report context ∧
        (report (context ++ more)).result = .ok (some "b\n&#60;".toList) := by
  intro context more r
  let title : Text := "<string>".toList
  obtain ⟨script, hscript, hcaptured⟩ := exists_captured_of_any ⟨[], []⟩ r
    [⟨.code " print('b') ".toList, title, 1⟩, ⟨.interpolation "x".toList none, title, 1⟩] .standard
    context "b\n&#60;".toList (by decide +kernel) (by decide +kernel) (by decide +kernel)
  have hsame : SameButHelpers (context ++ more) context := by
    refine sameButHelpers_append context fun name hname => ?_
    simpa [more] using hname
  have hexecutor : Environment.standard.executor = .standard := rfl
  obtain ⟨hrun, -, -⟩ := helpers_cannot_be_overridden hexecutor hsame false ⟨[], []⟩ #[]
  have hreport := hrun script .standard
  refine ⟨script, hscript, hexecutor, hsame, hreport, ?_⟩
  rw [hreport]
  exact hcaptured false ⟨[], []⟩

end Stencil
