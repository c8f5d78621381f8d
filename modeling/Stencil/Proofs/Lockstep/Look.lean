import Stencil.Proofs.Lockstep.Renumber

/-!
# States that look the same

Code looks up variables by name and never goes through them one by one. Two states look the same to
it when every name has the same value in both, in whatever order the names were bound and whatever
was bound to them before, and when all else is equal. A run from the one state is then a run from
the other: it ends in the same way, on the same line, and in states that look the same again.

* `Machine.LooksLike`: what is compared.
* `runScript_looksLike`: whole scripts.
-/

namespace Stencil

open Code (Stmt)

theorem Heap.mapLines_id (heap : Heap) : heap.mapLines id = heap := by
  have hcell : Cell.mapLines id = id := by
    funext cell
    cases cell with
    | function c => simp only [Cell.mapLines, FunctionCell.mapLines, Stmt.mapLinesAll_id, id]
    | _ => rfl
  rw [Heap.mapLines, hcell, Array.map_id]

theorem lookup_unbindName_self (name : Text) (names : List (Text × Value)) :
    (unbindName name names).lookup name = none := by
  rw [List.lookup_eq_none_iff]
  intro entry hentry
  have hne : entry.1 ≠ name := bne_iff_ne.mp (List.mem_filter.mp hentry).2
  exact bne_iff_ne.mpr hne.symm

/-- Every name has the same value in both states, and all else is equal. -/
structure Machine.LooksLike (m m' : Machine) : Prop where
  lookup_eq : ∀ name, m'.globals.lookup name = m.globals.lookup name
  heap_eq : m'.heap = m.heap
  written_eq : m'.written = m.written
  log_eq : m'.log = m.log

theorem Machine.LooksLike.output_eq {m m' : Machine} (h : m.LooksLike m') :
    m'.output = m.output := by
  rw [Machine.output, Machine.output, h.written_eq]

namespace Lockstep

/-- States that look the same, and lines as they are. -/
def look : Lockstep id where
  rel := Machine.LooksLike
  heap_eq h := h.heap_eq.trans (Heap.mapLines_id _).symm
  lookup_eq h := h.lookup_eq
  length_eq h := congrArg List.length h.written_eq
  withHeap h heap := ⟨h.lookup_eq, Heap.mapLines_id heap, h.written_eq, h.log_eq⟩
  withLog h records := ⟨h.lookup_eq, h.heap_eq, h.written_eq, congrArg (records ++ ·) h.log_eq⟩
  withText h t := ⟨h.lookup_eq, h.heap_eq, congrArg (t :: ·) h.written_eq, h.log_eq⟩

theorem look_binds (name : Text) : look.Binds .top name := by
  constructor
  · intro v m m' h
    refine .done () ⟨fun other => ?_, h.heap_eq, h.written_eq, h.log_eq⟩
    by_cases hname : other = name
    · rw [hname, lookup_bindName_self, lookup_bindName_self]
    · rw [lookup_bindName_of_ne hname, lookup_bindName_of_ne hname, h.lookup_eq]
  · intro line m m' h
    by_cases hbound : (m.globals.lookup name).isSome = true
    · simp only [Scope.unbind, Scope.top, h.lookup_eq, hbound, if_true]
      refine .done () ⟨fun other => ?_, h.heap_eq, h.written_eq, h.log_eq⟩
      by_cases hname : other = name
      · rw [hname, lookup_unbindName_self, lookup_unbindName_self]
      · rw [lookup_unbindName_of_ne hname, lookup_unbindName_of_ne hname, h.lookup_eq]
    · simp only [Scope.unbind, Scope.top, h.lookup_eq, hbound]
      exact .raised _ line h

end Lockstep

/-- **Scripts do the same in states that look the same.** -/
theorem runScript_looksLike (s : Setting) (body : List Stmt) :
    Lockstep.look.Same (runScript s body) (runScript s body) := by
  have h := Lockstep.same_runScript s fun name (_ : name ∈ Stmt.boundAll body) =>
    Lockstep.look_binds name
  rwa [Stmt.mapLinesAll_id] at h

end Stencil
