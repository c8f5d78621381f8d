import Mathlib.Order.Defs.LinearOrder
import Stencil.Run.Evaluate

/-!
# Renumbering the cells

Functions keep their bodies in cells, and bodies have lines. Renumbering the lines of a heap changes
the bodies of its functions and nothing else: no operation on values can tell a heap from a
renumbered one, and cells that an operation makes or changes are made or changed alike in both.

Every operation is given one equation, a simplification rule that moves the renumbering out of it.
-/

namespace Stencil

open Code (Expr Stmt)

/-! ## Cells -/

/-- The function with the lines of its body renumbered. -/
def FunctionCell.mapLines (f : Nat → Nat) (c : FunctionCell) : FunctionCell :=
  { c with body := Stmt.mapLinesAll f c.body }

/-- The cell with the lines of a function renumbered. -/
def Cell.mapLines (f : Nat → Nat) : Cell → Cell
  | .function c => .function (c.mapLines f)
  | c => c

namespace Heap

/-- The heap with the lines of all functions renumbered. -/
def mapLines (f : Nat → Nat) (heap : Heap) : Heap := Array.map (Cell.mapLines f) heap

variable (f : Nat → Nat) (heap : Heap)

@[simp] theorem size_mapLines : (heap.mapLines f).size = heap.size := Array.size_map

@[simp] theorem getElem?_mapLines (ref : Nat) :
    (heap.mapLines f)[ref]? = heap[ref]?.map (Cell.mapLines f) := Array.getElem?_map

@[simp] theorem items_mapLines (ref : Nat) : (heap.mapLines f).items ref = heap.items ref := by
  rw [items, items, getElem?_mapLines]
  cases heap[ref]? with
  | none => rfl
  | some c => cases c <;> rfl

@[simp] theorem entries_mapLines (ref : Nat) :
    (heap.mapLines f).entries ref = heap.entries ref := by
  rw [entries, entries, getElem?_mapLines]
  cases heap[ref]? with
  | none => rfl
  | some c => cases c <;> rfl

@[simp] theorem names_mapLines (ref : Nat) : (heap.mapLines f).names ref = heap.names ref := by
  rw [names, names, getElem?_mapLines]
  cases heap[ref]? with
  | none => rfl
  | some c => cases c <;> rfl

@[simp] theorem class?_mapLines (ref : Nat) : (heap.mapLines f).class? ref = heap.class? ref := by
  rw [class?, class?, getElem?_mapLines]
  cases heap[ref]? with
  | none => rfl
  | some c => cases c <;> rfl

@[simp] theorem function?_mapLines (ref : Nat) :
    (heap.mapLines f).function? ref = (heap.function? ref).map (FunctionCell.mapLines f) := by
  rw [function?, function?, getElem?_mapLines]
  cases heap[ref]? with
  | none => rfl
  | some c => cases c <;> rfl

/-- What comes with a heap, with the heap renumbered. -/
def mapLinesSnd {α : Type} (p : α × Heap) : α × Heap := (p.1, p.2.mapLines f)

theorem alloc_mapLines (cell : Cell) :
    (heap.mapLines f).alloc (cell.mapLines f) = mapLinesSnd f (heap.alloc cell) := by
  simp [alloc, mapLinesSnd, mapLines]

@[simp] theorem alloc_list_mapLines (items : List Value) :
    (heap.mapLines f).alloc (.list items) = mapLinesSnd f (heap.alloc (.list items)) :=
  alloc_mapLines f heap (.list items)

theorem setIfInBounds_mapLines (ref : Nat) (cell : Cell) :
    (heap.mapLines f).setIfInBounds ref (cell.mapLines f) =
      mapLines f (heap.setIfInBounds ref cell) := by
  simp [mapLines]

@[simp] theorem setIfInBounds_list_mapLines (ref : Nat) (items : List Value) :
    (heap.mapLines f).setIfInBounds ref (.list items) =
      mapLines f (heap.setIfInBounds ref (.list items)) :=
  setIfInBounds_mapLines f heap ref (.list items)

@[simp] theorem setIfInBounds_dict_mapLines (ref : Nat) (entries : List (Value × Value)) :
    (heap.mapLines f).setIfInBounds ref (.dict entries) =
      mapLines f (heap.setIfInBounds ref (.dict entries)) :=
  setIfInBounds_mapLines f heap ref (.dict entries)

/-! ## Classes and types -/

@[simp] theorem className_mapLines (c : ClassId) :
    (heap.mapLines f).className c = heap.className c := by
  cases c <;> simp [className]

@[simp] theorem lineage_mapLines (n : Nat) (c : ClassId) :
    (heap.mapLines f).lineage n c = heap.lineage n c := by
  induction n generalizing c with
  | zero => rfl
  | succ n ih =>
    cases c with
    | known name => rfl
    | defined ref => simp [lineage, funext ih]

@[simp] theorem isKind_mapLines (c : ClassId) (name : String) :
    (heap.mapLines f).isKind c name = heap.isKind c name := by
  simp [isKind]

@[simp] theorem classAttribute?_mapLines (c : ClassId) (name : Text) :
    (heap.mapLines f).classAttribute? c name = heap.classAttribute? c name := by
  simp [classAttribute?]

@[simp] theorem typeName_mapLines (v : Value) : (heap.mapLines f).typeName v = heap.typeName v := by
  cases v with
  | object c args shown => exact className_mapLines f heap c
  | style s => cases s <;> rfl
  | _ => rfl

/-! ## Equality and order -/

@[simp] theorem equal_mapLines (n : Nat) : (heap.mapLines f).equal n = heap.equal n := by
  funext v w
  induction n generalizing v w with
  | zero => rfl
  | succ n ih =>
    have hn : (heap.mapLines f).equal n = heap.equal n := funext fun v => funext fun w => ih v w
    simp only [equal, hn, items_mapLines, entries_mapLines]

@[simp] theorem eq_mapLines : (heap.mapLines f).eq = heap.eq := by
  funext v w
  simp [eq]

@[simp] theorem identical_mapLines : (heap.mapLines f).identical = heap.identical := by
  funext v w
  simp only [identical, eq_mapLines]

@[simp] theorem noOrder_mapLines (op : Code.CompareOp) (v w : Value) :
    (heap.mapLines f).noOrder op v w = heap.noOrder op v w := by
  simp only [noOrder, typeName_mapLines]

@[simp] theorem ordered_mapLines (op : Code.CompareOp) (n : Nat) (v w : Value) :
    (heap.mapLines f).ordered op n v w = heap.ordered op n v w := by
  induction n generalizing v w with
  | zero => simp [ordered]
  | succ n ih => simp only [ordered, eq_mapLines, items_mapLines, noOrder_mapLines, ih]

@[simp] theorem truth_mapLines (v : Value) : (heap.mapLines f).truth v = heap.truth v := by
  cases v <;> simp only [truth, items_mapLines, entries_mapLines]

@[simp] theorem hashable_mapLines (n : Nat) (v : Value) :
    (heap.mapLines f).hashable n v = heap.hashable n v := by
  induction n generalizing v with
  | zero => rfl
  | succ n ih => simp only [hashable, typeName_mapLines, funext ih]

/-! ## Items -/

@[simp] theorem length_mapLines (v : Value) : (heap.mapLines f).length v = heap.length v := by
  simp only [length, items_mapLines, entries_mapLines, typeName_mapLines]

@[simp] theorem contains_mapLines (v w : Value) :
    (heap.mapLines f).contains v w = heap.contains v w := by
  simp only [contains, items_mapLines, entries_mapLines, typeName_mapLines, identical_mapLines,
    eq_mapLines, hashable_mapLines]

@[simp] theorem itemAt_mapLines {α : Type} (noun outside : String) (quoted : Bool)
    (items : List α) (index : Value) (item : α → Value) :
    (heap.mapLines f).itemAt noun outside quoted items index item =
      heap.itemAt noun outside quoted items index item := by
  simp only [itemAt, typeName_mapLines]

@[simp] theorem lookup_mapLines (ref : Nat) (key : Value) :
    (heap.mapLines f).lookup ref key = heap.lookup ref key := by
  simp only [lookup, entries_mapLines, eq_mapLines]

theorem subscript_mapLines (v index : Value) :
    (heap.mapLines f).subscript v index = mapLinesSnd f <$> heap.subscript v index := by
  fun_cases Heap.subscript heap v index
  all_goals simp only [subscript, items_mapLines, itemAt_mapLines, hashable_mapLines,
    lookup_mapLines, typeName_mapLines, alloc_list_mapLines, map_bind, map_pure]
  case case9 =>
    refine bind_congr fun _ => ?_
    split <;> rfl
  all_goals rfl

theorem setItem_mapLines (v index item : Value) :
    (heap.mapLines f).setItem v index item = mapLines f <$> heap.setItem v index item := by
  cases v with
  | list r =>
    simp only [setItem, items_mapLines, typeName_mapLines, setIfInBounds_list_mapLines]
    cases index.whole? with
    | none => rfl
    | some n =>
      dsimp only
      cases position? (heap.items r).length n <;> rfl
  | dict r =>
    simp only [setItem, entries_mapLines, eq_mapLines, hashable_mapLines,
      setIfInBounds_dict_mapLines, map_bind, map_pure]
  | _ =>
    simp only [setItem, typeName_mapLines]
    rfl

theorem deleteItem_mapLines (v index : Value) :
    (heap.mapLines f).deleteItem v index = mapLines f <$> heap.deleteItem v index := by
  cases v with
  | list r =>
    simp only [deleteItem, items_mapLines, typeName_mapLines, setIfInBounds_list_mapLines]
    cases index.whole? with
    | none => rfl
    | some n =>
      dsimp only
      cases position? (heap.items r).length n <;> rfl
  | dict r =>
    simp only [deleteItem, entries_mapLines, eq_mapLines, hashable_mapLines,
      setIfInBounds_dict_mapLines, map_bind]
    refine bind_congr fun _ => ?_
    split <;> rfl
  | bytes mutable bs => cases mutable <;> rfl
  | _ =>
    simp only [deleteItem, typeName_mapLines]
    rfl

/-! ## Operators -/

@[simp] theorem badOperands_mapLines (op : Text) (v w : Value) :
    (heap.mapLines f).badOperands op v w = heap.badOperands op v w := by
  simp only [badOperands, typeName_mapLines]

@[simp] theorem badConcat_mapLines (noun : String) (w : Value) :
    (heap.mapLines f).badConcat noun w = heap.badConcat noun w := by
  simp only [badConcat, typeName_mapLines]

@[simp] theorem badCount_mapLines (w : Value) :
    (heap.mapLines f).badCount w = heap.badCount w := by
  simp only [badCount, typeName_mapLines]

theorem repeatValue_mapLines (v w : Value) :
    (heap.mapLines f).repeatValue v w = mapLinesSnd f <$> heap.repeatValue v w := by
  simp only [repeatValue, length_mapLines, items_mapLines, badCount_mapLines, alloc_list_mapLines]
  cases w.whole? with
  | none => rfl
  | some n =>
    simp only
    split
    · rfl
    · cases v <;> rfl

theorem operate_mapLines (op : Code.BinaryOp) (spelling : Text) (v w : Value) :
    (heap.mapLines f).operate op spelling v w =
      mapLinesSnd f <$> heap.operate op spelling v w := by
  fun_cases Heap.operate heap op spelling v w
  all_goals simp_all only [operate, items_mapLines, typeName_mapLines, badOperands_mapLines,
    badConcat_mapLines, alloc_list_mapLines, repeatValue_mapLines, map_bind, map_pure]
  all_goals rfl

@[simp] theorem operateUnary_mapLines (op : Code.UnaryOp) (v : Value) :
    (heap.mapLines f).operateUnary op v = heap.operateUnary op v := by
  simp only [operateUnary, truth_mapLines, typeName_mapLines]

@[simp] theorem compareValues_mapLines (op : Code.CompareOp) (v w : Value) :
    (heap.mapLines f).compareValues op v w = heap.compareValues op v w := by
  simp only [compareValues, eq_mapLines, identical_mapLines, contains_mapLines, ordered_mapLines]

/-! ## Iteration -/

@[simp] theorem iterate_mapLines (v : Value) :
    (heap.mapLines f).iterate v = heap.iterate v := by
  simp only [iterate, notIterable, entries_mapLines, typeName_mapLines]

@[simp] theorem elements_mapLines (v : Value) :
    (heap.mapLines f).elements v = heap.elements v := by
  simp only [elements, items_mapLines, iterate_mapLines]

@[simp] theorem unpack_mapLines (count : Nat) (v : Value) :
    (heap.mapLines f).unpack count v = heap.unpack count v := by
  simp only [unpack, elements_mapLines, typeName_mapLines]

@[simp] theorem next_mapLines (iter : Iter) :
    iter.next (heap.mapLines f) = iter.next heap := by
  simp only [Iter.next, items_mapLines, entries_mapLines]

/-! ## Written form -/

mutual

theorem written_value_mapLines (cell : Nat → Text) :
    (v : Value) → v.written (heap.mapLines f) cell = v.written heap cell
  | .tuple items =>
    congrArg (fun ts => '(' :: Code.tupleText ts ++ ")".toList) (written_values_mapLines cell items)
  | .slice lower upper step => by
    unfold Value.written
    rw [written_value_mapLines cell lower, written_value_mapLines cell upper,
      written_value_mapLines cell step]
  | .object c args shown => by
    unfold Value.written
    rw [written_values_mapLines cell args, className_mapLines]
  | .cls id => by
    unfold Value.written
    cases id with
    | known name => rfl
    | defined ref =>
      dsimp only
      rw [class?_mapLines]
  | .style s => by
    unfold Value.written
    rw [typeName_mapLines]
  | .builtin b => by cases b <;> rfl
  | .bool b => by cases b <;> rfl
  | .none | .ellipsis | .int _ | .float _ | .text _ | .bytes _ _ | .list _ | .dict _ | .range _ _ _
  | .function _ | .bound _ _ | .method _ _ | .foreign _ _ => rfl

theorem written_values_mapLines (cell : Nat → Text) :
    (vs : List Value) → Value.writtenAll (heap.mapLines f) cell vs = Value.writtenAll heap cell vs
  | [] => rfl
  | v :: vs => by
    rw [Value.writtenAll, Value.writtenAll, written_value_mapLines cell v,
      written_values_mapLines cell vs]

end

@[simp] theorem writtenCell_mapLines (n : Nat) (active : List Nat) (ref : Nat) :
    (heap.mapLines f).writtenCell n active ref = heap.writtenCell n active ref := by
  induction n generalizing active ref with
  | zero => rfl
  | succ n ih =>
    have hinner : (heap.mapLines f).writtenCell n (ref :: active) =
        heap.writtenCell n (ref :: active) := funext fun r => ih (ref :: active) r
    rw [writtenCell, writtenCell, hinner, getElem?_mapLines]
    cases heap[ref]? with
    | none => rfl
    | some c =>
      cases c with
      | list items =>
        simp only [Option.map_some, Cell.mapLines, written_values_mapLines]
      | dict entries =>
        simp only [Option.map_some, Cell.mapLines, written_value_mapLines]
      | _ => rfl

@[simp] theorem written_mapLines (v : Value) : (heap.mapLines f).written v = heap.written v := by
  have hcell : (heap.mapLines f).writtenCell (heap.size + 1) [] =
      heap.writtenCell (heap.size + 1) [] := funext fun r => writtenCell_mapLines f heap _ _ r
  rw [written, written, size_mapLines, hcell, written_value_mapLines]

/-! ## Texts, attributes and conversions -/

@[simp] theorem argumentsText_mapLines (c : ClassId) (args : List Value) :
    (heap.mapLines f).argumentsText c args = heap.argumentsText c args := by
  simp only [argumentsText, isKind_mapLines, written_mapLines]

@[simp] theorem lacksAttribute_mapLines (v : Value) (name : Text) :
    (heap.mapLines f).lacksAttribute v name = heap.lacksAttribute v name := by
  simp only [lacksAttribute, className_mapLines, typeName_mapLines]

@[simp] theorem attribute_mapLines (v : Value) (name : Text) :
    (heap.mapLines f).attribute v name = heap.attribute v name := by
  simp only [Heap.attribute, lacksAttribute_mapLines, classAttribute?_mapLines, isKind_mapLines,
    className_mapLines]

theorem setAttribute_mapLines (v : Value) (name : Text) (w : Value) :
    (heap.mapLines f).setAttribute v name w = mapLines f <$> heap.setAttribute v name w := by
  fun_cases Heap.setAttribute heap v name w
  all_goals simp_all only [setAttribute, class?_mapLines, lacksAttribute_mapLines]
  · exact congrArg Except.ok (setIfInBounds_mapLines f heap _ (.cls _))
  · rfl
  · rfl

end Heap

@[simp] theorem toWhole_mapLines (f : Nat → Nat) (heap : Heap) (v : Value) :
    toWhole (heap.mapLines f) v = toWhole heap v := by
  simp only [toWhole, Heap.typeName_mapLines]

@[simp] theorem toRange_mapLines (f : Nat → Nat) (heap : Heap) (args : List Value) :
    toRange (heap.mapLines f) args = toRange heap args := by
  simp only [toRange, Heap.typeName_mapLines]

@[simp] theorem joinValues_mapLines (f : Nat → Nat) (heap : Heap) (sep : Text) (v : Value) :
    joinValues (heap.mapLines f) sep v = joinValues heap sep v := by
  simp only [joinValues, Heap.elements_mapLines, Heap.typeName_mapLines]

@[simp] theorem construct_mapLines (f : Nat → Nat) (heap : Heap) (c : ClassId) (args : List Value)
    (named : List (Text × Value)) :
    construct (heap.mapLines f) c args named = construct heap c args named := by
  simp only [construct, Heap.className_mapLines, Heap.isKind_mapLines]

@[simp] theorem baseClasses_mapLines (f : Nat → Nat) (heap : Heap) (bases : List Value) :
    baseClasses (heap.mapLines f) bases = baseClasses heap bases := by
  simp only [baseClasses, Heap.typeName_mapLines]

@[simp] theorem errorOf_mapLines (f : Nat → Nat) (heap : Heap) (v : Value) :
    errorOf (heap.mapLines f) v = errorOf heap v := by
  simp only [errorOf, construct_mapLines, Heap.isKind_mapLines]

/-! ## Functions -/

section Functions

variable (f : Nat → Nat) (c : FunctionCell)

@[simp] theorem bindNamed_mapLines (bound named : List (Text × Value)) :
    bindNamed (c.mapLines f) bound named = bindNamed c bound named := by
  induction named generalizing bound with
  | nil => rfl
  | cons entry rest ih =>
    rw [bindNamed, bindNamed, ih]
    rfl

@[simp] theorem bindParameters_mapLines (args : List Value) (named : List (Text × Value)) :
    bindParameters (c.mapLines f) args named = bindParameters c args named := by
  rw [bindParameters, bindParameters, bindNamed_mapLines]
  rfl

end Functions

end Stencil
