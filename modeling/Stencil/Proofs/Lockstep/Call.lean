import Stencil.Proofs.Lockstep.Action

/-!
# Calls in lockstep

What calling a value does, in two runs that go in lockstep. The functions that code has defined are
called by callers that do the same in both runs; everything else is done here.
-/

namespace Stencil.Lockstep

variable {f : Nat → Nat} {L : Lockstep f} {call call' : Caller}

/-- Two callers that do the same in their runs. -/
def SameCaller (L : Lockstep f) (call call' : Caller) : Prop :=
  ∀ line ref args named, L.Same (call line ref args named) (call' (f line) ref args named)

/-! ## Texts of values -/

theorem same_textOf (hcall : L.SameCaller call call') (line : Nat) (heap : Heap) :
    (v : Value) → L.Same (textOf call line heap v) (textOf call' (f line) (heap.mapLines f) v)
  | .object c args shown => by
    unfold textOf
    rw [Heap.classAttribute?_mapLines, Heap.isKind_mapLines, Heap.className_mapLines]
    split
    · refine (hcall line _ _ _).bind fun v => ?_
      split
      · exact same_pure _
      · refine same_heap_bind fun heap => ?_
        rw [Heap.typeName_mapLines]
        exact same_raise line _
    · refine Same.ite (same_pure _) ?_
      split
      · exact same_pure _
      · rw [Heap.isKind_mapLines, Heap.written_mapLines]
        exact Same.ite (same_pure _) (same_textOf hcall line heap _)
      · rw [Heap.argumentsText_mapLines]
        exact same_pure _
  | .foreign typeName (.error message) => same_raise line _
  | .foreign typeName (.ok t) => same_pure t
  | .text t => same_pure t
  | .none | .ellipsis | .bool _ | .int _ | .float _ | .bytes _ _ | .tuple _ | .list _ | .dict _
  | .range _ _ _ | .slice _ _ _ | .cls _ | .function _ | .bound _ _ | .builtin _ | .method _ _
  | .style _ => by
    unfold textOf
    rw [Heap.written_mapLines]
    exact same_pure _

theorem same_currentText (hcall : L.SameCaller call call') (line : Nat) (v : Value) :
    L.Same (currentText call line v) (currentText call' (f line) v) :=
  same_heap_bind fun heap => same_textOf hcall line heap v

/-! ## Output -/

theorem same_echo (s : Setting) (hcall : L.SameCaller call call') (line : Nat) (args : List Value)
    (named : List (Text × Value)) :
    L.Same (echo s call line args named) (echo s call' (f line) args named) := by
  unfold echo
  split
  · exact same_raise line _
  · extract_lets text text'
    have htext (v : Value) : L.Same (text v) (text' v) := by
      cases v with
      | none => exact same_pure []
      | _ => exact same_currentText hcall line _
    split
    · refine (same_mapM htext args).bind fun texts => ?_
      exact (same_write s.outlet line _).andReturn _
    · refine (same_mapM htext args).bind fun texts => ?_
      split
      · exact same_writeValue s.outlet line _
      · exact same_raise line _
    · refine same_heap_bind fun heap => ?_
      rw [Heap.typeName_mapLines]
      exact same_raise line _

theorem same_printRest (s : Setting) (hcall : L.SameCaller call call') (line : Nat) (sep : Text)
    (vs : List Value) :
    L.Same (printValues.printRest s call line sep vs)
      (printValues.printRest s call' (f line) sep vs) := by
  induction vs with
  | nil => exact same_pure ()
  | cons v vs ih =>
    cases vs with
    | nil =>
      refine (same_currentText hcall line v).bind fun t => ?_
      exact (same_write s.outlet line t).andReturn ()
    | cons w ws =>
      refine (same_currentText hcall line v).bind fun t => ?_
      refine (same_write s.outlet line t).bind fun _ => ?_
      exact (same_write s.outlet line sep).bind fun _ => ih

theorem same_printValues (s : Setting) (hcall : L.SameCaller call call') (line : Nat)
    (args : List Value) (named : List (Text × Value)) :
    L.Same (printValues s call line args named) (printValues s call' (f line) args named) := by
  unfold printValues
  extract_lets known
  split
  · exact same_raise line _
  · refine same_heap_bind fun heap => ?_
    extract_lets mark mark'
    have hmark (name : String) (default : Text) :
        L.Same (mark name default) (mark' name default) := by
      unfold mark mark'
      simp only [Heap.typeName_mapLines]
      split
      · exact same_pure _
      · exact same_pure _
      · exact same_pure _
      · exact same_raise line _
    simp only [Heap.typeName_mapLines]
    refine (hmark _ _).bind fun sep => (hmark _ _).bind fun ending => ?_
    split
    · exact same_raise line _
    · refine (same_printRest s hcall line sep args).bind fun _ => ?_
      exact (same_write s.outlet line ending).andReturn _

/-! ## Escaping -/

theorem same_plainOr {str str' : Value → Action Text} (hstr : ∀ v, L.Same (str v) (str' v))
    (v : Value) : L.Same (v.plainOr str) (v.plainOr str') := by
  cases v with
  | none => exact same_pure []
  | text t => exact same_pure t
  | bytes mutable bs => exact same_pure _
  | _ => exact hstr _

theorem same_applyStyle_text {str str' : Value → Action Text} (line : Nat)
    (hstr : ∀ v, L.Same (str v) (str' v)) (style : Style) (v : Value) :
    L.Same (style.apply str (Action.raise line) v) (style.apply str' (Action.raise (f line)) v) := by
  have hplain := same_plainOr hstr v
  cases style with
  | xml => exact hplain.bind fun t => same_pure _
  | uri =>
    cases v with
    | bytes mutable bs => exact same_pure _
    | _ => exact hplain.bind fun t => same_pure _
  | raw => exact hplain.bind fun t => same_pure _
  | ofText name g => exact hplain.bind fun t => same_pure _
  | constant name w => exact same_pure w
  | refusing name message => exact same_raise line _
  | uncallable name typeName => exact same_raise line _

theorem same_escapeValue (s : Setting) (hcall : L.SameCaller call call') (line : Nat)
    (name v : Value) :
    L.Same (escapeValue s call line name v) (escapeValue s call' (f line) name v) := by
  have hstyle (style : Style) := same_applyStyle_text line (same_currentText hcall line) style v
  refine same_heap_bind fun heap => ?_
  cases name with
  | none => exact hstyle _
  | text t => exact (same_logAll _).bind fun _ => hstyle _
  | _ =>
    dsimp only
    rw [Heap.hashable_mapLines, Heap.written_mapLines]
    exact (same_attempt line _).bind fun _ => (same_logAll _).bind fun _ => hstyle _

/-! ## Calls -/

theorem same_applyBuiltin (s : Setting) (hcall : L.SameCaller call call') (line : Nat)
    (b : Builtin) (args : List Value) (named : List (Text × Value)) :
    L.Same (applyBuiltin s call line b args named) (applyBuiltin s call' (f line) b args named) := by
  refine same_heap_bind fun heap => ?_
  cases b with
  | write =>
    refine Same.ite ?_ (same_raise line _)
    split
    · exact same_writeValue s.outlet line _
    · exact same_raise line _
  | echo => exact same_echo s hcall line args named
  | print => exact same_printValues s hcall line args named
  | escape =>
    dsimp only
    split
    · exact same_escapeValue s hcall line _ _
    · exact same_raise line _
  | len =>
    refine Same.ite ?_ (same_raise line _)
    split
    · rw [Heap.length_mapLines]
      exact (same_attempt line _).bind fun n => same_pure _
    · exact same_raise line _
  | str =>
    dsimp only
    split
    · exact same_pure _
    · exact (same_currentText hcall line _).bind fun t => same_pure _
    · rw [Heap.typeName_mapLines]
      exact same_raise line _
  | int =>
    dsimp only
    split
    · exact same_pure _
    · rw [toWhole_mapLines]
      exact same_attempt line _
  | range =>
    dsimp only
    rw [toRange_mapLines]
    exact Same.ite (same_attempt line _) (same_raise line _)
  | module name => exact same_raise line _
  | generator => exact same_raise line _

theorem same_applyMethod (line : Nat) (self : Value) (method : Method) (args : List Value) :
    L.Same (applyMethod line self method args) (applyMethod (f line) self method args) := by
  refine same_heap_bind fun heap => ?_
  split
  · exact same_pure _
  · exact same_raise line _
  · rw [joinValues_mapLines]
    exact same_attempt line _
  · exact same_raise line _
  · rw [Heap.items_mapLines]
    exact (same_store _ (.list _)).andReturn _
  · exact same_raise line _

theorem same_applyStyle (hcall : L.SameCaller call call') (line : Nat) (style : Style)
    (args : List Value) :
    L.Same (applyStyle call line style args) (applyStyle call' (f line) style args) := by
  unfold applyStyle
  split
  · exact same_raise line _
  · exact same_applyStyle_text line (same_currentText hcall line) _ _
  · exact same_raise line _

theorem same_applyValue (s : Setting) (hcall : L.SameCaller call call') (line : Nat) (v : Value)
    (args : List Value) (named : List (Text × Value)) :
    L.Same (applyValue s call line v args named) (applyValue s call' (f line) v args named) := by
  cases v with
  | function r => exact hcall line r args named
  | bound self r => exact hcall line r (self :: args) named
  | cls c =>
    refine same_heap_bind fun heap => ?_
    rw [construct_mapLines]
    exact same_attempt line _
  | builtin b => exact same_applyBuiltin s hcall line b args named
  | method self m => exact same_applyMethod line self m args
  | style style => exact same_applyStyle hcall line style args
  | _ =>
    refine same_heap_bind fun heap => ?_
    rw [Heap.typeName_mapLines]
    exact same_raise line _

end Stencil.Lockstep
