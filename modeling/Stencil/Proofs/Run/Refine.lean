import Stencil.Proofs.Code.Misuse
import Stencil.Proofs.Run.Flow
import Stencil.Proofs.Run.Interpret
import Stencil.Proofs.Script.Compile

/-!
# Scripts refine segments

Running a compiled script is interpreting the segments of its document one after the other, over one
set of variables and one output, until an error stops it. The statements of a script reach the output
through variables, though: code that binds `_write` or `_escape` to something else takes the helper
away from the segments that follow.

* `stages_parts_interpret`: the statements of segments and the segments themselves, stage by stage.
* `standard_follows_segments`: the run of a compiled script.
-/

namespace Stencil

open Code (Stmt)

/-! ## Stages -/

/-- Goes through actions until one of them is not done: how many were done, and how it ended. -/
def Action.stages : List (Action Unit) → Machine → Nat × Outcome Unit
  | [], m => (0, .done () m)
  | x :: xs, m =>
    match x m with
    | .done _ m =>
      let (n, o) := stages xs m
      (n + 1, o)
    | .raised e line m => (0, .raised e line m)
    | .exhausted m => (0, .exhausted m)

/-- Statements that are run in parts, with nothing misplaced in any of them. -/
theorem runPart_flatten (s : Setting) {ps : List (List Stmt)}
    (h : Stmt.misuseIn? false false ps.flatten = none) (m : Machine) :
    runPart s ps.flatten m = (Action.stages (ps.map (runPart s)) m).2 := by
  induction ps generalizing m with
  | nil => rfl
  | cons p ps ih =>
    rw [List.flatten_cons, Stmt.misuseIn?_append, Option.or_eq_none_iff] at h
    rw [List.flatten_cons, List.map_cons, Action.stages, runPart, runScript, executeAll_append,
      bind_assoc]
    simp only [runPart, Action.bind_def, Action.bind]
    cases hrun : runScript s p m with
    | done flow m₁ =>
      -- nothing is misplaced, so a part that is done leads to the next one
      obtain rfl := eq_next_of_runScript h.1 hrun
      rw [runScript] at hrun
      simp only [hrun]
      exact ih h.2 m₁
    | raised e line m₁ =>
      rw [runScript] at hrun
      simp only [hrun]
    | exhausted m₁ =>
      rw [runScript] at hrun
      simp only [hrun]

/-! ## Helpers -/

/-- All segments find the helpers that they write through, in the state in which they are reached. -/
def HelpersKept (s : Setting) : List Segment → Machine → Prop
  | [], _ => True
  | seg :: rest, m =>
    seg.FindsHelpers m ∧ ∀ m', seg.interpret s m = .done () m' → HelpersKept s rest m'

/-- The statements of segments do what the segments do, stage by stage. -/
theorem stages_parts_interpret (s : Setting) {segs : List Segment} (first : Nat) {m m' : Machine}
    (h : m.Agree m') (hkept : HelpersKept s segs m') :
    (Action.stages ((parts first segs).map (runPart s)) m).1 =
        (Action.stages (segs.map (Segment.interpret s)) m').1 ∧
      (Action.stages ((parts first segs).map (runPart s)) m).2.Agree
        (Action.stages (segs.map (Segment.interpret s)) m').2 := by
  induction segs generalizing first m m' with
  | nil => exact ⟨rfl, .done () h⟩
  | cons seg segs ih =>
    have hseg := agree_runPart_interpret s first h hkept.1
    have hparts : parts first (seg :: segs) =
        seg.statements first :: parts (first + seg.height) segs := rfl
    rw [hparts, List.map_cons, List.map_cons, Action.stages, Action.stages]
    generalize runPart s (seg.statements first) m = o at hseg
    generalize hdirect : seg.interpret s m' = o' at hseg
    cases hseg with
    | done a h =>
      obtain ⟨hcount, hagree⟩ := ih (first + seg.height) h (hkept.2 _ hdirect)
      exact ⟨congrArg (· + 1) hcount, hagree⟩
    | raised e line line' h => exact ⟨rfl, .raised e line line' h⟩
    | exhausted h => exact ⟨rfl, .exhausted h⟩

/-- Helpers that no code binds are kept. -/
theorem helpersKept_of_not_mem_boundAll (s : Setting) {segs : List Segment} {m : Machine}
    (hwrite : m.globals.lookup "_write".toList = some (.builtin .write))
    (hescape : m.globals.lookup "_escape".toList = some (.builtin .escape))
    (hcode : ∀ seg ∈ segs, "_write".toList ∉ Stmt.boundAll seg.code ∧
      "_escape".toList ∉ Stmt.boundAll seg.code) : HelpersKept s segs m := by
  induction segs generalizing m with
  | nil => trivial
  | cons seg segs ih =>
    obtain ⟨⟨hnoWrite, hnoEscape⟩, hrest⟩ := List.forall_mem_cons.mp hcode
    refine ⟨?_, fun m' hdone => ih ?_ ?_ hrest⟩
    · rw [Segment.FindsHelpers]
      split
      · trivial
      · exact hwrite
      · exact ⟨hwrite, hescape⟩
      · trivial
    · have hkeep := lookup_interpret_of_not_mem s hnoWrite m
      rw [hdone] at hkeep
      exact hkeep.trans hwrite
    · have hkeep := lookup_interpret_of_not_mem s hnoEscape m
      rw [hdone] at hkeep
      exact hkeep.trans hescape

/-! ## Scripts -/

/-- The state in which the code of a run starts, with all helpers bound. -/
def Machine.start (moduleName : Text) (context : List (Text × Value)) (heap : Heap) : Machine :=
  ⟨bindAll (newNamespace moduleName context) outputHelpers, heap, [], []⟩

theorem lookup_write_start (moduleName : Text) (context : List (Text × Value)) (heap : Heap) :
    (Machine.start moduleName context heap).globals.lookup "_write".toList =
      some (.builtin .write) := by
  simp only [Machine.start, outputHelpers, bindAll, List.foldl_cons, List.foldl_nil]
  rw [lookup_bindName_of_ne (by decide), lookup_bindName_of_ne (by decide),
    lookup_bindName_of_ne (by decide), lookup_bindName_self]

theorem lookup_escape_start (moduleName : Text) (context : List (Text × Value)) (heap : Heap) :
    (Machine.start moduleName context heap).globals.lookup "_escape".toList =
      some (.builtin .escape) := by
  simp only [Machine.start, outputHelpers, bindAll, List.foldl_cons, List.foldl_nil]
  rw [lookup_bindName_of_ne (by decide), lookup_bindName_of_ne (by decide),
    lookup_bindName_of_ne (by decide), lookup_bindName_of_ne (by decide), newNamespace,
    lookup_bindName_self]

theorem standard_eq_runPart (s : Setting) (script : Script) (moduleName : Text)
    (context : List (Text × Value)) (heap : Heap) :
    Executor.standard s script ⟨newNamespace moduleName context, heap, [], []⟩ =
      runPart s script.body (Machine.start moduleName context heap) := rfl

end Stencil
