import Stencil.Proofs.Include.Missing
import Stencil.Proofs.Script.Generable

/-!
# Templates without code

A template that scans into literals and interpolations alone can always be made into a script: it
includes nothing, it has no code that could be refused, and the names in its interpolations are
names that code can use.

* `Document.Plain.generable`: documents without code and directives can be made into scripts.
* `exists_compile_of_plain`: templates without code and directives compile.
-/

namespace Stencil

open Code (Expr Stmt)

/-! ## Names in interpolations -/

/-- The variable of an interpolation that is scanned is a name that code can use. -/
theorem isName_of_pieces {t name : Text} {style : Option Text} {ps : List Piece}
    (h : pieces t = .ok ps) (hmem : .interpolation name style ∈ ps) : Text.isName name = true := by
  obtain ⟨earlier, later, rfl⟩ := List.append_of_mem hmem
  obtain ⟨o, after, inner, -, -, hp⟩ := (pieces_eq_ok_iff.mp h).fits earlier _ later rfl
  cases o with
  | code => cases hp
  | directive => cases hp
  | interpolation =>
    obtain ⟨⟨found, foundStyle⟩, hfound, hpiece⟩ := Option.map_eq_some_iff.mp hp
    cases hpiece
    exact (words_of_interpolation? hfound).1

theorem not_mem_constantNames {name : Text} (h : Text.isName name = true) :
    name ∉ Code.constantNames := by
  have hreserved : ∀ word ∈ Code.constantNames, word ∈ Text.reservedWords := by decide
  unfold Text.isName at h
  intro hmem
  simp [hreserved name hmem] at h

/-! ## Plain documents -/

/-- A segment that is text or an interpolation of a name that code can use. -/
def Segment.Plain (s : Segment) : Prop :=
  match s.body with
  | .literal _ => True
  | .interpolation name _ => Text.isName name = true
  | .code _ | .directive _ => False

theorem Segment.Plain.body_eq {s : Segment} (h : s.Plain) :
    (∃ t, s.body = .literal t) ∨
      ∃ name style, s.body = .interpolation name style ∧ Text.isName name = true := by
  unfold Plain at h
  cases hbody : s.body with
  | literal t => exact .inl ⟨t, rfl⟩
  | interpolation name style =>
    rw [hbody] at h
    exact .inr ⟨name, style, rfl, h⟩
  | code t | directive t =>
    rw [hbody] at h
    exact h.elim

/-- A document of text and interpolations alone. -/
def Document.Plain (d : Document) : Prop := ∀ s ∈ d.segments, s.Plain

/-- What is written as it is, or as the value of a variable. -/
def Body.IsOutput : Body → Prop
  | .literal _ | .interpolation _ _ => True
  | .code _ | .directive _ => False

/-- A template that scans into literals and interpolations has a plain document. -/
theorem plain_of_pieces {t : Text} {ps : List Piece} (h : pieces t = .ok ps)
    (houtput : ∀ p ∈ ps, p.body.IsOutput) (filename : Text) :
    Document.Plain ⟨filename, segmentsFrom filename 1 ps, t⟩ := by
  refine forall_body_segmentsFrom_iff (P := fun b => Segment.Plain ⟨b, [], 0⟩).mpr ?_
  intro p hp
  have hbody := houtput p hp
  cases p with
  | text u => trivial
  | interpolation name style => exact isName_of_pieces h hp
  | code inner | directive inner => exact hbody.elim

theorem Segment.Plain.path?_eq_none {s : Segment} (h : s.Plain) : s.path? = none := by
  obtain ⟨t, hbody⟩ | ⟨name, style, hbody, -⟩ := h.body_eq <;> rw [path?, hbody]

/-! ## Statements -/

/-- A statement that nothing can be said against, wherever it stands. -/
structure Code.Stmt.Harmless (st : Stmt) : Prop where
  constantName : st.constantName? = none
  repeatedParam : st.repeatedParam? = none
  misuse : st.misuse? false false = none

theorem moduleMisuse?_eq_none {ss : List Stmt} (h : ∀ st ∈ ss, st.Harmless) :
    Code.moduleMisuse? ss = none := by
  have hparts : Stmt.constantNameIn? ss = none ∧ Stmt.repeatedParamIn? ss = none ∧
      Stmt.misuseIn? false false ss = none := by
    induction ss with
    | nil => exact ⟨rfl, rfl, rfl⟩
    | cons st ss ih =>
      obtain ⟨hconstant, hparam, hmisuse⟩ := ih fun st' hst' => h st' (List.mem_cons_of_mem st hst')
      have hst := h st List.mem_cons_self
      refine ⟨?_, ?_, ?_⟩
      · rw [Stmt.constantNameIn?, hst.constantName, hconstant]
        rfl
      · rw [Stmt.repeatedParamIn?, hst.repeatedParam, hparam]
        rfl
      · rw [Stmt.misuseIn?, hst.misuse, hmisuse]
        rfl
  obtain ⟨hconstant, hparam, hmisuse⟩ := hparts
  rw [Code.moduleMisuse?, hconstant, hparam, hmisuse]
  rfl

theorem harmless_literalStmt (line : Nat) (t : Text) : (literalStmt line t).Harmless :=
  ⟨rfl, rfl, rfl⟩

theorem harmless_interpolationStmt (line : Nat) {name : Text} (style : Option Text)
    (h : Text.isName name = true) : (interpolationStmt line name style).Harmless := by
  have hwrite : "_write".toList ∉ Code.constantNames := by decide
  have hescape : "_escape".toList ∉ Code.constantNames := by decide
  have hname := not_mem_constantNames h
  refine ⟨?_, rfl, ?_⟩
  · cases style <;>
      simp only [interpolationStmt, writeStmt, Stmt.constantName?, Stmt.expressions, Expr.partsAll,
        Expr.parts, Expr.constantName?, List.append_nil, List.cons_append, List.nil_append,
        List.findSome?_cons, List.findSome?_nil, List.contains_iff_mem, hwrite, hescape, hname,
        if_false]
  · cases style <;> rfl

/-- The statements of a plain segment. -/
theorem Segment.Plain.harmless {s : Segment} (h : s.Plain) (first : Nat) :
    ∀ st ∈ s.statements first, st.Harmless := by
  unfold statements
  obtain ⟨t, hbody⟩ | ⟨name, style, hbody, hname⟩ := h.body_eq
  · rw [hbody]
    cases t with
    | nil => simp
    | cons c t => simpa using harmless_literalStmt first (c :: t)
  · rw [hbody]
    simpa using harmless_interpolationStmt first style hname

/-! ## Scripts -/

/-- **Documents without code and directives can be made into scripts.** -/
theorem Document.Plain.generable {d : Document} (h : d.Plain) (hname : '\x00' ∉ d.name) :
    d.Generable := by
  refine ⟨fun s hs => ?_, hname, moduleMisuse?_eq_none fun st hst => ?_⟩
  · obtain ⟨t, hbody⟩ | ⟨name, style, hbody, -⟩ := (h s hs).body_eq <;>
      exact ⟨by simp [Segment.Readable, hbody], by simp [hbody]⟩
  · obtain ⟨part, hpart, hst⟩ := List.mem_flatten.mp hst
    obtain ⟨⟨first, s⟩, hs, rfl⟩ := List.mem_map.mp hpart
    exact (h s (mem_of_mem_layout hs)).harmless first st hst

/-- A document without directives is resolved as it is. -/
theorem resolve_of_kept {d : Document} (h : ∀ s ∈ d.segments, s.path? = none) (tree : FileTree)
    (loader : Loader) : resolve tree loader d none = ⟨[], .ok ⟨d, [], [(d.name, d.source)]⟩⟩ := by
  have hchain : originChain tree none = .ok [] := rfl
  exact resolve_eq_of_splice hchain (splice_of_kept tree loader _ [] d.name h)

/-- A template without directives compiles if its document can be made into a script, and no other
text goes into the script. -/
theorem exists_compile_of_kept {env : Environment} {tree : FileTree} {r : CompileRequest}
    {t name : Text} {d : Document} (hread : env.readSource tree r = .ok ⟨t, name, none⟩)
    (hscan : scanTemplate t name = .ok d) (hkept : ∀ s ∈ d.segments, s.path? = none)
    (h : d.Generable) :
    ∃ script, (env.compile tree r).result = .ok script ∧ script.LaysOut d ∧
      script.warnings = [] ∧ script.sources = [(name, t)] := by
  obtain ⟨ps, -, rfl⟩ := exists_pieces_of_scanTemplate hscan
  have hgenerate := generate_of_generable h [(name, t)] []
  have hresult := Environment.compile_eq hread hscan
  rw [resolve_of_kept hkept] at hresult
  dsimp only at hresult
  rw [hgenerate] at hresult
  exact ⟨_, hresult, laysOut_of_generate hgenerate, rfl, rfl⟩

/-- **Templates without code and directives compile**, and no other text goes into the script. -/
theorem exists_compile_of_plain {env : Environment} {tree : FileTree} {r : CompileRequest}
    {t name : Text} {d : Document} (hread : env.readSource tree r = .ok ⟨t, name, none⟩)
    (hscan : scanTemplate t name = .ok d) (h : d.Plain) (hname : '\x00' ∉ name) :
    ∃ script, (env.compile tree r).result = .ok script ∧ script.LaysOut d ∧
      script.warnings = [] ∧ script.sources = [(name, t)] := by
  have hkept : ∀ s ∈ d.segments, s.path? = none := fun s hs => (h s hs).path?_eq_none
  refine exists_compile_of_kept hread hscan hkept (h.generable ?_)
  obtain ⟨ps, -, rfl⟩ := exists_pieces_of_scanTemplate hscan
  exact hname

end Stencil
