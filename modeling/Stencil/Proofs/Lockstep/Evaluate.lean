import Stencil.Proofs.Code.Lines
import Stencil.Proofs.Lockstep.Call

/-!
# Code in lockstep

Expressions and statements do the same in two runs that go in lockstep, however the lines of the
second are numbered, as long as what they do to the variables of the top level keeps the states
together. Only the names that statements bind are asked for (`Binds`), and none in the frames of
functions and classes, which are cells.

* `same_evaluate`, `same_execute`: expressions and statements, by recursion on their trees.
* `same_callFunction`: calls, by the depth to which they nest.
* `same_runScript`: whole scripts.
-/

namespace Stencil.Lockstep

open Code (Expr Stmt)

variable {f : Nat → Nat} {L : Lockstep f} {call call' : Caller} {α β : Type}

/-! ## Variables -/

theorem same_state_bind {k k' : Machine → Action α}
    (hk : ∀ m m', L.rel m m' → L.Same (k m) (k' m')) :
    L.Same (Action.state >>= k) (Action.state >>= k') :=
  fun m m' hm => hk m m' hm hm

theorem global_eq {m m' : Machine} (hm : L.rel m m') (name : Text) :
    m'.global name = m.global name := by
  rw [Machine.global, Machine.global, L.lookup_eq hm]

theorem scopeLookup_eq {m m' : Machine} (hm : L.rel m m') (sc : Scope) (name : Text) :
    sc.lookup m' name = sc.lookup m name := by
  simp only [Scope.lookup, Scope.lookupOutside, global_eq hm, L.heap_eq hm, Heap.names_mapLines]

/-- Binding a name in a scope, and taking its binding away, keeps the runs in lockstep. -/
def Binds (L : Lockstep f) (sc : Scope) (name : Text) : Prop :=
  (∀ v, L.Same (sc.bind name v) (sc.bind name v)) ∧
    ∀ line, L.Same (sc.unbind line name) (sc.unbind (f line) name)

/-- The names of a frame are in a cell. -/
theorem binds_of_frame {sc : Scope} {r : Nat} (h : sc.frame = some r) (name : Text) :
    L.Binds sc name := by
  constructor
  · intro v m m' hm
    simp only [Scope.bind, h, L.heap_eq hm, Heap.names_mapLines]
    rw [show Cell.frame _ = Cell.mapLines f (.frame _) from rfl, Heap.setIfInBounds_mapLines]
    exact .done () (L.withHeap hm _)
  · intro line m m' hm
    simp only [Scope.unbind, h, L.heap_eq hm, Heap.names_mapLines]
    split
    · rw [show Cell.frame _ = Cell.mapLines f (.frame _) from rfl, Heap.setIfInBounds_mapLines]
      exact .done () (L.withHeap hm _)
    · exact .raised _ line hm

/-! ## Operators on actions -/

theorem same_firstDeciding (op : Code.BoolOp) {xs ys : List (Action Value)}
    (h : List.Forall₂ L.Same xs ys) : L.Same (firstDeciding op xs) (firstDeciding op ys) := by
  induction h with
  | nil => exact same_pure _
  | cons hx hrest ih =>
    cases hrest with
    | nil => exact hx
    | cons hx' hrest' =>
      refine hx.bind fun v => same_heap_bind fun heap => ?_
      rw [Heap.truth_mapLines]
      exact Same.ite (same_pure v) ih

theorem same_comparisonChain (line : Nat) (v : Value) (ops : List Code.CompareOp)
    {xs ys : List (Action Value)} (h : List.Forall₂ L.Same xs ys) :
    L.Same (comparisonChain line v (ops.zip xs)) (comparisonChain (f line) v (ops.zip ys)) := by
  induction h generalizing ops v with
  | nil =>
    rw [List.zip_nil_right]
    exact same_pure _
  | @cons x y xs ys hx hrest ih =>
    cases ops with
    | nil => exact same_pure _
    | cons op ops =>
      rw [List.zip_cons_cons, List.zip_cons_cons]
      unfold comparisonChain
      refine hx.bind fun w => same_heap_bind fun heap => ?_
      rw [Heap.compareValues_mapLines]
      refine (same_attempt line _).bind fun holds => ?_
      have hchain := Same.ite (c := holds = true) (ih w ops) (same_pure (.bool false))
      cases ops with
      | nil => exact same_pure _
      | cons op' ops =>
        cases hrest with
        | nil => exact same_pure _
        | cons hx' hrest' => exact hchain

theorem same_fillDict (line ref : Nat) {xs xs' ys ys' : List (Action Value)}
    (hx : List.Forall₂ L.Same xs xs') (hy : List.Forall₂ L.Same ys ys') :
    L.Same (fillDict line ref (xs.zip ys)) (fillDict (f line) ref (xs'.zip ys')) := by
  induction hx generalizing ys ys' with
  | nil => exact same_pure ()
  | cons hk _ ih =>
    cases hy with
    | nil => exact same_pure ()
    | cons hv hrest =>
      refine hk.bind fun k => hv.bind fun v => same_heap_bind fun heap => ?_
      rw [Heap.setItem_mapLines]
      refine (maps_attempt _ line _).bind fun heap => ?_
      exact (same_setHeap heap).bind fun _ => ih hrest

theorem same_fieldText (hcall : L.SameCaller call call') (line : Nat) (conversion : Option Char)
    (v : Value) :
    L.Same (fieldText call line conversion v) (fieldText call' (f line) conversion v) := by
  refine same_heap_bind fun heap => ?_
  rw [Heap.written_mapLines]
  split
  · exact same_pure _
  · exact same_pure _
  · exact same_textOf hcall line heap v

theorem same_operateInPlace (line : Nat) (op : Code.BinaryOp) (v w : Value) :
    L.Same (operateInPlace line op v w) (operateInPlace (f line) op v w) := by
  refine same_heap_bind fun heap => ?_
  split
  · rw [Heap.elements_mapLines, Heap.items_mapLines]
    refine (same_attempt line _).bind fun more => ?_
    exact (same_store _ (.list _)).andReturn _
  · rw [Heap.items_mapLines, Heap.badCount_mapLines]
    split
    · exact (same_store _ (.list _)).andReturn _
    · exact same_raise line _
  · exact same_onHeap line fun heap => Heap.operate_mapLines f heap _ _ _ _

/-! ## Expressions -/

theorem callLine_mapLines (line : Nat) (e : Expr) :
    callLine (f line) (e.mapLines f) = f (callLine line e) := by
  cases e <;> rfl

mutual

/-- An expression gives the same value in both runs. -/
theorem same_evaluate (s : Setting) (hcall : L.SameCaller call call') (sc : Scope) :
    (e : Expr) → L.Same (evaluate s call sc e) (evaluate s call' sc (e.mapLines f))
  | .name line id => by
    refine same_state_bind fun m m' hm => ?_
    rw [scopeLookup_eq hm]
    exact same_attempt line _
  | .constant line value => same_pure _
  | .joined line parts => by
    refine (same_inOrder (same_evaluateEach s hcall sc parts)).bind fun values => ?_
    exact (same_mapM (same_currentText hcall line) values).bind fun texts => same_pure _
  | .field line value conversion format => by
    refine (same_evaluate s hcall sc value).bind fun v => ?_
    exact (same_fieldText hcall line conversion v).bind fun t => same_pure _
  | .tuple line items =>
    (same_inOrder (same_evaluateEach s hcall sc items)).bind fun vs => same_pure _
  | .list line items => by
    refine (same_inOrder (same_evaluateEach s hcall sc items)).bind fun vs => ?_
    exact (same_alloc (.list vs)).bind fun ref => same_pure _
  | .dict line keys values => by
    refine (same_alloc (.dict [])).bind fun ref => ?_
    have hfill := same_fillDict line ref (same_evaluateEach s hcall sc keys)
      (same_evaluateEach s hcall sc values)
    exact hfill.andReturn _
  | .attribute line nameLine value id => by
    refine (same_evaluate s hcall sc value).bind fun v => same_heap_bind fun heap => ?_
    rw [Heap.attribute_mapLines]
    exact same_attempt nameLine _
  | .subscript line value index => by
    refine (same_evaluate s hcall sc value).bind fun v => ?_
    refine (same_evaluate s hcall sc index).bind fun i => ?_
    exact same_onHeap line fun heap => Heap.subscript_mapLines f heap v i
  | .slice line lower upper step => by
    refine (same_evaluateOption s hcall sc lower).bind fun a => ?_
    refine (same_evaluateOption s hcall sc upper).bind fun b => ?_
    exact (same_evaluateOption s hcall sc step).bind fun c => same_pure _
  | .call line function args keywords keywordArgs => by
    refine (same_evaluate s hcall sc function).bind fun v => ?_
    refine (same_inOrder (same_evaluateEach s hcall sc args)).bind fun vs => ?_
    refine (same_inOrder (same_evaluateEach s hcall sc keywordArgs)).bind fun ws => ?_
    rw [callLine_mapLines]
    exact same_applyValue s hcall _ v vs _
  | .unary line op operand => by
    refine (same_evaluate s hcall sc operand).bind fun v => same_heap_bind fun heap => ?_
    rw [Heap.operateUnary_mapLines]
    exact same_attempt line _
  | .binary line op left right => by
    refine (same_evaluate s hcall sc left).bind fun v => ?_
    refine (same_evaluate s hcall sc right).bind fun w => ?_
    exact same_onHeap line fun heap => Heap.operate_mapLines f heap _ _ v w
  | .boolean line op operands => same_firstDeciding op (same_evaluateEach s hcall sc operands)
  | .compare line left ops operands => by
    refine (same_evaluate s hcall sc left).bind fun v => ?_
    exact same_comparisonChain line v ops (same_evaluateEach s hcall sc operands)
  | .conditional line test body orelse => by
    refine (same_evaluate s hcall sc test).bind fun v => same_heap_bind fun heap => ?_
    rw [Heap.truth_mapLines]
    exact Same.ite (same_evaluate s hcall sc body) (same_evaluate s hcall sc orelse)
  | .yield line value => same_pure _

theorem same_evaluateEach (s : Setting) (hcall : L.SameCaller call call') (sc : Scope) :
    (es : List Expr) → List.Forall₂ L.Same (evaluateEach s call sc es)
      (evaluateEach s call' sc (Expr.mapLinesAll f es))
  | [] => .nil
  | e :: es => .cons (same_evaluate s hcall sc e) (same_evaluateEach s hcall sc es)

theorem same_evaluateOption (s : Setting) (hcall : L.SameCaller call call') (sc : Scope) :
    (e : Option Expr) → L.Same (evaluateOption s call sc e)
      (evaluateOption s call' sc (Expr.mapLinesOption f e))
  | none => same_pure _
  | some e => same_evaluate s hcall sc e

end

theorem same_holds (s : Setting) (hcall : L.SameCaller call call') (sc : Scope) (e : Expr) :
    L.Same (holds s call sc e) (holds s call' sc (e.mapLines f)) := by
  refine (same_evaluate s hcall sc e).bind fun v => same_heap_bind fun heap => ?_
  rw [Heap.truth_mapLines]
  exact same_pure _

/-! ## Targets -/

mutual

theorem same_assign (s : Setting) (hcall : L.SameCaller call call') (sc : Scope) :
    (e : Expr) → (∀ name ∈ e.bound, L.Binds sc name) → ∀ v,
      L.Same (assign s call sc e v) (assign s call' sc (e.mapLines f) v)
  | .name line id, hsc, v => (hsc id List.mem_cons_self).1 v
  | .attribute line nameLine value id, _, v => by
    refine (same_evaluate s hcall sc value).bind fun w => same_heap_bind fun heap => ?_
    rw [Heap.setAttribute_mapLines]
    exact (maps_attempt _ nameLine _).bind fun heap => same_setHeap heap
  | .subscript line value index, _, v => by
    refine (same_evaluate s hcall sc value).bind fun w => ?_
    refine (same_evaluate s hcall sc index).bind fun i => same_heap_bind fun heap => ?_
    rw [Heap.setItem_mapLines]
    exact (maps_attempt _ line _).bind fun heap => same_setHeap heap
  | .tuple line items, hsc, v => by
    refine same_heap_bind fun heap => ?_
    rw [Heap.unpack_mapLines, Expr.length_mapLinesAll]
    refine (same_attempt line _).bind fun vs => ?_
    exact (same_inOrder (same_assignEach s hcall sc items hsc vs)).andReturn ()
  | .list line items, hsc, v => by
    refine same_heap_bind fun heap => ?_
    rw [Heap.unpack_mapLines, Expr.length_mapLinesAll]
    refine (same_attempt line _).bind fun vs => ?_
    exact (same_inOrder (same_assignEach s hcall sc items hsc vs)).andReturn ()
  | .constant _ _, _, _ | .joined _ _, _, _ | .field _ _ _ _, _, _ | .dict _ _ _, _, _
  | .slice _ _ _ _, _, _ | .call _ _ _ _ _, _, _ | .unary _ _ _, _, _ | .binary _ _ _ _, _, _
  | .boolean _ _ _, _, _ | .compare _ _ _ _, _, _ | .conditional _ _ _ _, _, _
  | .yield _ _, _, _ => same_pure ()

theorem same_assignEach (s : Setting) (hcall : L.SameCaller call call') (sc : Scope) :
    (es : List Expr) → (∀ name ∈ Expr.boundAll es, L.Binds sc name) → ∀ vs : List Value,
      List.Forall₂ L.Same (((assignEach s call sc es).zip vs).map fun pair => pair.1 pair.2)
        (((assignEach s call' sc (Expr.mapLinesAll f es)).zip vs).map fun pair => pair.1 pair.2)
  | [], _, _ => .nil
  | e :: es, _, [] => .nil
  | e :: es, hsc, v :: vs => by
    refine .cons (same_assign s hcall sc e (fun name h => ?_) v)
      (same_assignEach s hcall sc es (fun name h => ?_) vs)
    · exact hsc name (List.mem_append_left _ h)
    · exact hsc name (List.mem_append_right _ h)

end

/-- One value assigned to several targets. -/
theorem same_assignTo (s : Setting) (hcall : L.SameCaller call call') (sc : Scope) (v : Value)
    {targets : List Expr} (hsc : ∀ name ∈ Expr.boundAll targets, L.Binds sc name) :
    List.Forall₂ L.Same ((assignEach s call sc targets).map fun x => x v)
      ((assignEach s call' sc (Expr.mapLinesAll f targets)).map fun x => x v) := by
  induction targets with
  | nil => exact .nil
  | cons e es ih =>
    refine .cons (same_assign s hcall sc e (fun name h => ?_) v) (ih fun name h => ?_)
    · exact hsc name (List.mem_append_left _ h)
    · exact hsc name (List.mem_append_right _ h)

mutual

theorem same_deleteTarget (s : Setting) (hcall : L.SameCaller call call') (sc : Scope) :
    (e : Expr) → (∀ name ∈ e.bound, L.Binds sc name) →
      L.Same (deleteTarget s call sc e) (deleteTarget s call' sc (e.mapLines f))
  | .name line id, hsc => (hsc id List.mem_cons_self).2 line
  | .attribute line nameLine value id, _ => by
    refine (same_evaluate s hcall sc value).bind fun w => same_heap_bind fun heap => ?_
    rw [Heap.lacksAttribute_mapLines]
    exact same_raise nameLine _
  | .subscript line value index, _ => by
    refine (same_evaluate s hcall sc value).bind fun w => ?_
    refine (same_evaluate s hcall sc index).bind fun i => same_heap_bind fun heap => ?_
    rw [Heap.deleteItem_mapLines]
    exact (maps_attempt _ line _).bind fun heap => same_setHeap heap
  | .tuple line items, hsc => (same_inOrder (same_deleteEach s hcall sc items hsc)).andReturn ()
  | .list line items, hsc => (same_inOrder (same_deleteEach s hcall sc items hsc)).andReturn ()
  | .constant _ _, _ | .joined _ _, _ | .field _ _ _ _, _ | .dict _ _ _, _ | .slice _ _ _ _, _
  | .call _ _ _ _ _, _ | .unary _ _ _, _ | .binary _ _ _ _, _ | .boolean _ _ _, _
  | .compare _ _ _ _, _ | .conditional _ _ _ _, _ | .yield _ _, _ => same_pure ()

theorem same_deleteEach (s : Setting) (hcall : L.SameCaller call call') (sc : Scope) :
    (es : List Expr) → (∀ name ∈ Expr.boundAll es, L.Binds sc name) →
      List.Forall₂ L.Same (deleteEach s call sc es)
        (deleteEach s call' sc (Expr.mapLinesAll f es))
  | [], _ => .nil
  | e :: es, hsc => by
    refine .cons (same_deleteTarget s hcall sc e fun name h => ?_)
      (same_deleteEach s hcall sc es fun name h => ?_)
    · exact hsc name (List.mem_append_left _ h)
    · exact hsc name (List.mem_append_right _ h)

end

theorem same_augment (s : Setting) (hcall : L.SameCaller call call') (sc : Scope) (line : Nat)
    (target : Expr) (op : Code.BinaryOp) {value value' : Action Value}
    (hvalue : L.Same value value') (hsc : ∀ name ∈ target.bound, L.Binds sc name) :
    L.Same (augment s call sc line target op value)
      (augment s call' sc (f line) (target.mapLines f) op value') := by
  cases target with
  | name nameLine id =>
    refine same_state_bind fun m m' hm => ?_
    rw [scopeLookup_eq hm]
    refine (same_attempt nameLine _).bind fun v => hvalue.bind fun w => ?_
    exact (same_operateInPlace line op v w).bind (hsc id List.mem_cons_self).1
  | «attribute» eLine nameLine e id =>
    refine (same_evaluate s hcall sc e).bind fun w => same_heap_bind fun heap => ?_
    rw [Heap.attribute_mapLines]
    refine (same_attempt nameLine _).bind fun v => hvalue.bind fun u => ?_
    refine (same_operateInPlace line op v u).bind fun result => same_heap_bind fun heap => ?_
    rw [Heap.setAttribute_mapLines]
    exact (maps_attempt _ nameLine _).bind fun heap => same_setHeap heap
  | subscript itemLine e index =>
    refine (same_evaluate s hcall sc e).bind fun w => ?_
    refine (same_evaluate s hcall sc index).bind fun i => ?_
    refine (same_onHeap itemLine fun heap => Heap.subscript_mapLines f heap w i).bind fun v => ?_
    refine hvalue.bind fun u => (same_operateInPlace line op v u).bind fun result => ?_
    refine same_heap_bind fun heap => ?_
    rw [Heap.setItem_mapLines]
    exact (maps_attempt _ itemLine _).bind fun heap => same_setHeap heap
  | _ => exact same_pure ()

/-! ## Definitions -/

theorem same_defineFunction {sc : Scope} {name : Text} (hsc : L.Binds sc name)
    (params : List Text) (defaults : List Value) (body : List Stmt) :
    L.Same (defineFunction sc name params defaults body)
      (defineFunction sc name params defaults (Stmt.mapLinesAll f body)) := by
  unfold defineFunction
  rw [Stmt.boundAll_mapLinesAll]
  exact (same_alloc (.function _)).bind fun ref => hsc.1 _

theorem same_defineClass {sc : Scope} {name : Text} (hsc : L.Binds sc name) (line : Nat)
    (bases : List Value) {body body' : Scope → Action Flow}
    (hbody : ∀ inner : Scope, inner.frame.isSome → L.Same (body inner) (body' inner)) :
    L.Same (defineClass sc line name bases body) (defineClass sc (f line) name bases body') := by
  refine same_heap_bind fun heap => ?_
  rw [baseClasses_mapLines]
  refine (same_attempt line _).bind fun parents => ?_
  refine (same_alloc (.frame [])).bind fun frame => ?_
  refine (hbody _ rfl).bind fun flow => same_state_bind fun m m' hm => ?_
  rw [L.lookup_eq hm, L.heap_eq hm, Heap.names_mapLines]
  refine (same_alloc (.cls _)).bind fun ref => (hsc.1 _).bind fun _ => ?_
  cases flow <;> exact same_pure _

theorem same_raiseValue (line : Nat) (error cause : Option Value) :
    L.Same (raiseValue line error cause) (raiseValue (f line) error cause) := by
  refine same_heap_bind fun heap => ?_
  cases error with
  | none => exact same_raise line _
  | some v =>
    dsimp only
    rw [errorOf_mapLines]
    refine (same_attempt line _).bind fun e => ?_
    split
    · exact same_raise line _
    · exact same_raise line _
    · rw [errorOf_mapLines]
      split
      · exact same_raise line _
      · exact same_raise line _

theorem same_importModule {sc : Scope} (line : Nat) {entry : Text × Option Text}
    (hsc : L.Binds sc (entry.2.getD (entry.1.takeWhile (· != '.')))) :
    L.Same (importModule sc line entry) (importModule sc (f line) entry) := by
  unfold importModule
  split
  · rename_i hknown
    -- no module that is known has a dot in its name
    have hname : entry.1.takeWhile (· != '.') = entry.1 := by
      rw [knownModules, List.contains_iff_mem, List.mem_singleton] at hknown
      rw [hknown]
      rfl
    rw [hname] at hsc
    exact hsc.1 _
  · exact same_raise line _

/-! ## Statements -/

mutual

/-- A statement ends in the same way in both runs. -/
theorem same_execute (s : Setting) (hcall : L.SameCaller call call') (sc : Scope) :
    (st : Stmt) → (∀ name ∈ st.bound, L.Binds sc name) →
      L.Same (execute s call sc st) (execute s call' sc (st.mapLines f))
  | .expr span value, _ => (same_evaluate s hcall sc value).andReturn _
  | .assign span targets value, hsc => by
    refine (same_evaluate s hcall sc value).bind fun v => ?_
    exact (same_inOrder (same_assignTo s hcall sc v hsc)).andReturn _
  | .augment span target op value, hsc =>
    (same_augment s hcall sc span.first target op (same_evaluate s hcall sc value) hsc).andReturn _
  | .branch span test body orelse, hsc => by
    refine (same_holds s hcall sc test).bind fun b => Same.ite ?_ ?_
    · exact same_executeAll s hcall sc body fun name h => hsc name (List.mem_append_left _ h)
    · exact same_executeAll s hcall sc orelse fun name h => hsc name (List.mem_append_right _ h)
  | .whileLoop span test body orelse, hsc => by
    have hbody := same_executeAll s hcall sc body fun name h =>
      hsc name (List.mem_append_left _ h)
    have horelse := same_executeAll s hcall sc orelse fun name h =>
      hsc name (List.mem_append_right _ h)
    refine (same_whileTrue (same_holds s hcall sc test) hbody s.rounds).bind fun flow => ?_
    exact same_afterLoop horelse flow
  | .forLoop span target iterable body orelse, hsc => by
    have hbody := same_executeAll s hcall sc body fun name h =>
      hsc name (List.mem_append_left _ (List.mem_append_right _ h))
    have horelse := same_executeAll s hcall sc orelse fun name h =>
      hsc name (List.mem_append_right _ h)
    have htarget := same_assign s hcall sc target fun name h =>
      hsc name (List.mem_append_left _ (List.mem_append_left _ h))
    refine (same_evaluate s hcall sc iterable).bind fun v => same_heap_bind fun heap => ?_
    rw [Heap.iterate_mapLines]
    refine (same_attempt span.first _).bind fun iter => ?_
    refine (same_forEach span.first (fun v => ?_) s.rounds iter).bind fun flow => ?_
    · exact (htarget v).bind fun _ => hbody
    · exact same_afterLoop horelse flow
  | .function span name params defaults body, hsc => by
    refine (same_inOrder (same_evaluateEach s hcall sc defaults)).bind fun vs => ?_
    exact (same_defineFunction (hsc name List.mem_cons_self) params vs body).andReturn _
  | .classDef span name bases body, hsc => by
    refine (same_inOrder (same_evaluateEach s hcall sc bases)).bind fun vs => ?_
    refine same_defineClass (hsc name List.mem_cons_self) span.first vs fun inner hinner => ?_
    obtain ⟨r, hr⟩ := Option.isSome_iff_exists.1 hinner
    exact same_executeAll s hcall inner body fun name _ => binds_of_frame hr name
  | .ret span value, _ => (same_evaluateOption s hcall sc value).bind fun v => same_pure _
  | .raise span error cause, _ => by
    have herror := same_inOrder (same_evaluateEach s hcall sc error.toList)
    have hcause := same_inOrder (same_evaluateEach s hcall sc cause.toList)
    rw [← Expr.toList_mapLinesOption] at herror hcause
    refine herror.bind fun e => hcause.bind fun c => ?_
    exact same_raiseValue span.first e.head? c.head?
  | .assert span test message, _ => by
    have hmessage := same_inOrder (same_evaluateEach s hcall sc message.toList)
    rw [← Expr.toList_mapLinesOption] at hmessage
    refine (same_holds s hcall sc test).bind fun b => Same.ite (same_pure _) ?_
    exact hmessage.bind fun args => same_raise span.first _
  | .delete span targets, hsc =>
    (same_inOrder (same_deleteEach s hcall sc targets hsc)).andReturn _
  | .pass span, _ => same_pure _
  | .breakLoop span, _ => same_pure _
  | .continueLoop span, _ => same_pure _
  | .importModules span modules, hsc => by
    refine Same.andReturn (same_forM fun entry hentry => ?_) _
    exact same_importModule span.first (hsc _ (List.mem_map_of_mem hentry))

theorem same_executeAll (s : Setting) (hcall : L.SameCaller call call') (sc : Scope) :
    (ss : List Stmt) → (∀ name ∈ Stmt.boundAll ss, L.Binds sc name) →
      L.Same (executeAll s call sc ss) (executeAll s call' sc (Stmt.mapLinesAll f ss))
  | [], _ => same_pure _
  | st :: ss, hsc => by
    have hst := same_execute s hcall sc st fun name h => hsc name (List.mem_append_left _ h)
    have hss := same_executeAll s hcall sc ss fun name h => hsc name (List.mem_append_right _ h)
    refine hst.bind fun flow => ?_
    cases flow with
    | next => exact hss
    | leave v => exact same_pure _
    | «break» => exact same_pure _
    | «continue» => exact same_pure _

end

/-! ## Calls of functions -/

theorem same_callFunction (s : Setting) (depth : Nat) :
    L.SameCaller (callFunction s depth) (callFunction s depth) := by
  induction depth with
  | zero =>
    intro line ref args named
    exact same_raise line _
  | succ depth ih =>
    intro line ref args named
    refine same_heap_bind fun heap => ?_
    rw [Heap.function?_mapLines]
    cases heap.function? ref with
    | none => exact same_pure _
    | some c =>
      dsimp only [Option.map_some]
      rw [bindParameters_mapLines]
      refine (same_attempt line _).bind fun names => ?_
      rw [show (c.mapLines f).body = Stmt.mapLinesAll f c.body from rfl,
        Stmt.yieldsAny_mapLinesAll]
      refine Same.ite (same_pure _) ((same_alloc (.frame names)).bind fun frame => ?_)
      have hbody := same_executeAll s ih
        { frame := some frame, ownNames := some c.localNames, outer := c.outer
          qualifier := c.qualifiedName ++ ".<locals>.".toList } c.body
        fun name _ => binds_of_frame rfl name
      refine hbody.bind fun flow => ?_
      cases flow <;> exact same_pure _

/-- Statements at the top level end in the same way in both runs. -/
theorem same_runScript (s : Setting) {body : List Stmt}
    (hbody : ∀ name ∈ Stmt.boundAll body, L.Binds .top name) :
    L.Same (runScript s body) (runScript s (Stmt.mapLinesAll f body)) :=
  same_executeAll s (same_callFunction s callDepth) .top body hbody

end Stencil.Lockstep
