import Stencil.Environment

/-!
# The layout of a script

A script is laid out segment by segment. Every segment takes a number of lines of its own, its
*height*, and the segments stand one below the other without a gap. The statements of a script are
those of its segments, each on the lines that its segment takes, and its markers say for each of
these lines where it was written.

* `Script.LaysOut`: what a script is made of.
* `laysOut_of_script`: a generated script lays out its document.
-/

namespace Stencil

open Code (Stmt)

namespace Segment

/-- The statements of a block of code, numbered by themselves. -/
def code (s : Segment) : List Stmt :=
  match s.body with
  | .code t => (Code.parse (Block.ofText t s.line).code).toOption.getD []
  | _ => []

/-- The statements of a segment in a script, on the lines from `first` on. -/
def statements (s : Segment) (first : Nat) : List Stmt :=
  match s.body with
  | .literal [] => []
  | .literal t => [literalStmt first t]
  | .interpolation name style => [interpolationStmt first name style]
  | .code _ => Stmt.mapLinesAll (· + (first - 1)) s.code
  | .directive _ => []

/-- How many lines of a script a segment takes. -/
def height (s : Segment) : Nat :=
  match s.body with
  | .literal [] => 0
  | .literal _ => 1
  | .interpolation _ _ => 1
  | .code t => if s.code.isEmpty then 0 else (Block.ofText t s.line).height
  | .directive _ => 0

/-- The authored line that the first of these lines was written on. -/
def firstLine (s : Segment) : Int :=
  match s.body with
  | .code t => (Block.ofText t s.line).line
  | _ => s.line

/-- The markers of a segment in a script, for the lines from `first` on. -/
def markers (s : Segment) (first : Nat) : List Marker :=
  (List.range s.height).map fun k => ⟨first + k, s.filename, s.firstLine + k⟩

theorem height_of_code {s : Segment} {t : Text} (hbody : s.body = .code t)
    (hcode : s.code ≠ []) : s.height = (Block.ofText t s.line).height := by
  simp [Segment.height, hbody, hcode]

theorem firstLine_of_code {s : Segment} {t : Text} (hbody : s.body = .code t) :
    s.firstLine = (Block.ofText t s.line).line := by
  rw [Segment.firstLine, hbody]

/-- The segment can be made into statements: it is no directive, and its code can be read. -/
def Readable (s : Segment) : Prop :=
  match s.body with
  | .directive _ => False
  | .code t => Code.parse (Block.ofText t s.line).code = .ok s.code
  | _ => True

/-- A block that has statements has been read. -/
theorem parse_of_code_ne_nil {s : Segment} {t : Text} (hbody : s.body = .code t)
    (h : s.code ≠ []) : Code.parse (Block.ofText t s.line).code = .ok s.code := by
  rw [Segment.code, hbody] at h ⊢
  cases hread : Code.parse (Block.ofText t s.line).code with
  | ok ss => simp [hread, Except.toOption]
  | error e => simp [hread, Except.toOption] at h

end Segment

/-- The segments of a script, each with the line of the script on which it begins. -/
def layout : Nat → List Segment → List (Nat × Segment)
  | _, [] => []
  | first, s :: ss => (first, s) :: layout (first + s.height) ss

/-- How many lines of a script segments take. -/
def totalHeight : List Segment → Nat
  | [] => 0
  | s :: ss => s.height + totalHeight ss

/-- The statements that segments are made into, segment by segment. -/
def parts (first : Nat) (ss : List Segment) : List (List Stmt) :=
  (layout first ss).map fun p => p.2.statements p.1

/-- The markers of segments. -/
def markersFrom (first : Nat) (ss : List Segment) : List Marker :=
  (layout first ss).flatMap fun p => p.2.markers p.1

theorem mem_of_mem_layout {first start : Nat} {ss : List Segment} {s : Segment}
    (h : (start, s) ∈ layout first ss) : s ∈ ss := by
  induction ss generalizing first with
  | nil => cases h
  | cons t ss ih =>
    rcases List.mem_cons.mp h with heq | h
    · obtain ⟨-, rfl⟩ := Prod.mk.inj heq
      exact List.mem_cons_self
    · exact List.mem_cons_of_mem t (ih h)

theorem le_of_mem_layout {first start : Nat} {ss : List Segment} {s : Segment}
    (h : (start, s) ∈ layout first ss) : first ≤ start := by
  induction ss generalizing first with
  | nil => cases h
  | cons t ss ih =>
    rcases List.mem_cons.mp h with heq | h
    · exact (Prod.mk.inj heq).1 ▸ Nat.le_refl _
    · have hstart := ih h
      omega

/-! ## Drafts -/

namespace Draft

/-- The draft with segments laid out below it. -/
def extend (d : Draft) (ss : List Segment) : Draft where
  body := d.body ++ (parts d.next ss).flatten
  markers := d.markers ++ markersFrom d.next ss
  next := d.next + totalHeight ss
  sources := d.sources

theorem extend_nil (d : Draft) : d.extend [] = d := by
  simp [extend, parts, markersFrom, layout, totalHeight]

theorem extend_cons (d : Draft) (s : Segment) (ss : List Segment) :
    d.extend (s :: ss) = (d.extend [s]).extend ss := by
  simp [extend, parts, markersFrom, layout, totalHeight, Nat.add_assoc]

theorem extend_of_height_eq_zero (d : Draft) {s : Segment} (hstmts : s.statements d.next = [])
    (hheight : s.height = 0) : d.extend [s] = d := by
  simp [extend, parts, markersFrom, layout, totalHeight, Segment.markers, hstmts, hheight]

theorem place_eq_extend (d : Draft) {s : Segment} (stmt : Nat → Stmt)
    (hstmts : s.statements d.next = [stmt d.next]) (hheight : s.height = 1)
    (hline : s.firstLine = s.line) : d.place stmt s = d.extend [s] := by
  simp [place, extend, parts, markersFrom, layout, totalHeight, Segment.markers, hstmts, hheight,
    hline]

theorem placeBlock_eq_extend (d : Draft) {s : Segment} {t : Text} (hbody : s.body = .code t)
    (hcode : s.code ≠ []) :
    d.placeBlock s.filename (Block.ofText t s.line) s.code = d.extend [s] := by
  have hheight := Segment.height_of_code hbody hcode
  have hline := Segment.firstLine_of_code hbody
  have hstmts : s.statements d.next = Stmt.mapLinesAll (· + (d.next - 1)) s.code := by
    simp [Segment.statements, hbody]
  simp [placeBlock, blockMarkers, extend, parts, markersFrom, layout, totalHeight, Segment.markers,
    hstmts, hheight, hline]

/-- A segment that a draft takes is laid out below it. -/
theorem eq_extend_of_add {d d' : Draft} {s : Segment} (h : d.add s = .ok d') :
    d' = d.extend [s] ∧ s.Readable := by
  rw [add] at h
  cases hbody : s.body with
  | literal t =>
    rw [hbody] at h
    have hreadable : s.Readable := by simp [Segment.Readable, hbody]
    cases t with
    | nil =>
      obtain rfl : d = d' := by simpa using h
      have hheight : s.height = 0 := by simp [Segment.height, hbody]
      exact ⟨(extend_of_height_eq_zero d (by simp [Segment.statements, hbody]) hheight).symm,
        hreadable⟩
    | cons c t =>
      obtain rfl : d.place (literalStmt · (c :: t)) s = d' := by simpa using h
      exact ⟨place_eq_extend d _ (by simp [Segment.statements, hbody])
        (by simp [Segment.height, hbody]) (by simp [Segment.firstLine, hbody]), hreadable⟩
  | interpolation name style =>
    rw [hbody] at h
    obtain rfl : d.place (interpolationStmt · name style) s = d' := by simpa using h
    exact ⟨place_eq_extend d _ (by simp [Segment.statements, hbody])
      (by simp [Segment.height, hbody]) (by simp [Segment.firstLine, hbody]),
      by simp [Segment.Readable, hbody]⟩
  | directive path => simp [hbody] at h
  | code t =>
    simp only [hbody] at h
    split at h
    · simp at h
    · cases hparse : Code.parse (Block.ofText t s.line).code with
      | error e => cases e <;> simp [hparse] at h
      | ok ss =>
        have hcode : s.code = ss := by simp [Segment.code, hbody, hparse, Except.toOption]
        have hreadable : s.Readable := by simp [Segment.Readable, hbody, hcode, hparse]
        cases ss with
        | nil =>
          obtain rfl : d = d' := by simpa [hparse] using h
          refine ⟨(extend_of_height_eq_zero d ?_ ?_).symm, hreadable⟩
          · simp [Segment.statements, hbody, hcode, Stmt.mapLinesAll]
          · simp [Segment.height, hbody, hcode]
        | cons st ss =>
          simp only [hparse, Except.ok.injEq] at h
          rw [← h, ← hcode]
          exact ⟨placeBlock_eq_extend d hbody (by simp [hcode]), hreadable⟩

theorem eq_extend_of_foldlM {d d' : Draft} {ss : List Segment}
    (h : ss.foldlM Draft.add d = .ok d') : d' = d.extend ss ∧ ∀ s ∈ ss, s.Readable := by
  induction ss generalizing d with
  | nil =>
    obtain rfl : d = d' := Except.ok.inj h
    exact ⟨d.extend_nil.symm, by simp⟩
  | cons s ss ih =>
    rw [List.foldlM_cons] at h
    cases hadd : d.add s with
    | error e =>
      rw [hadd] at h
      cases h
    | ok d₁ =>
      obtain ⟨rfl, hs⟩ := eq_extend_of_add hadd
      rw [hadd] at h
      obtain ⟨rfl, hss⟩ := ih h
      exact ⟨(d.extend_cons s ss).symm, by simpa using ⟨hs, hss⟩⟩

end Draft

/-! ## Scripts -/

namespace Generation

theorem run_bind {α β : Type} (x : Generation α) (k : α → Generation β) (d : Draft) :
    (x >>= k).run d =
      match x.run d with
      | (.ok a, d') => (k a).run d'
      | (.error e, d') => (.error e, d') := by
  show (match x.run d with | (r, d') => ExceptT.bindCont k r d') = _
  rcases x.run d with ⟨_ | a, d'⟩ <;> rfl

/-- A generation that ends well has done so at each of its steps. -/
theorem exists_of_bind_eq_ok {α β : Type} {x : Generation α} {k : α → Generation β} {d : Draft}
    {b : β} (h : ((x >>= k).run d).1 = .ok b) :
    ∃ a d', x.run d = (.ok a, d') ∧ ((k a).run d').1 = .ok b := by
  rw [run_bind] at h
  rcases hx : x.run d with ⟨e | a, d'⟩
  · rw [hx] at h
    cases h
  · rw [hx] at h
    exact ⟨a, d', rfl, h⟩

/-- A generation that fails has failed at one of its steps. -/
theorem exists_of_bind_eq_error {α β : Type} {x : Generation α} {k : α → Generation β} {d : Draft}
    {e : GenerateError} (h : ((x >>= k).run d).1 = .error e) :
    (x.run d).1 = .error e ∨ ∃ a d', ((k a).run d').1 = .error e := by
  rw [run_bind] at h
  rcases hx : x.run d with ⟨e' | a, d'⟩
  · rw [hx] at h
    cases h
    exact .inl rfl
  · rw [hx] at h
    exact .inr ⟨a, d', h⟩

theorem run_add (s : Segment) (d : Draft) :
    (add s).run d =
      match d.add s with
      | .ok d' => (.ok (), d')
      | .error e => (.error e, d) := by
  have hrun : (add s).run d = ((add.liftExcept (d.add s) >>= set : Generation Unit)).run d := rfl
  rw [hrun]
  cases d.add s <;> rfl

/-- The segments of a document are added to the draft one after the other. -/
theorem foldlM_add_of_run {ss : List Segment} {d d' : Draft}
    (h : (ss.forM add).run d = (.ok (), d')) : ss.foldlM Draft.add d = .ok d' := by
  induction ss generalizing d with
  | nil =>
    obtain rfl : d = d' := congrArg Prod.snd h
    rfl
  | cons s ss ih =>
    have hstep : (add s >>= fun _ => ss.forM add).run d = (.ok (), d') := h
    rw [run_bind, run_add] at hstep
    rw [List.foldlM_cons]
    cases hadd : d.add s with
    | error e =>
      rw [hadd] at hstep
      cases hstep
    | ok d₁ =>
      rw [hadd] at hstep
      exact ih hstep

/-- Segments that cannot be added have one that cannot be. -/
theorem exists_add_eq_error {ss : List Segment} {d : Draft} {e : GenerateError}
    (h : ((ss.forM add).run d).1 = .error e) : ∃ s ∈ ss, ∃ d' : Draft, d'.add s = .error e := by
  induction ss generalizing d with
  | nil => cases h
  | cons s ss ih =>
    have hstep : ((add s >>= fun _ => ss.forM add).run d).1 = .error e := h
    rw [run_bind, run_add] at hstep
    cases hadd : d.add s with
    | error e' =>
      rw [hadd] at hstep
      cases hstep
      exact ⟨s, List.mem_cons_self, d, hadd⟩
    | ok d₁ =>
      rw [hadd] at hstep
      obtain ⟨s', hs', hlater⟩ := ih hstep
      exact ⟨s', List.mem_cons_of_mem s hs', hlater⟩

end Generation

/-- The script is the layout of the segments of a document, which all can be read, and nothing in it
is misused. -/
structure Script.LaysOut (script : Script) (d : Document) : Prop where
  name_eq : script.name = d.name
  body_eq : script.body = (parts 1 d.segments).flatten
  markers_eq : script.markers = markersFrom 1 d.segments
  misuse_eq : Code.moduleMisuse? script.body = none
  readable : ∀ s ∈ d.segments, s.Readable

/-- A generated script lays out its document, whatever draft the generator held before. -/
theorem laysOut_of_script {d : Document} {sources : List (Text × Text)}
    {warnings : List IncludeWarning} {draft : Draft} {script : Script}
    (h : ((Generation.script d sources warnings).run draft).1 = .ok script) : script.LaysOut d := by
  rw [Generation.script] at h
  obtain ⟨_, d₀, hset, h⟩ := Generation.exists_of_bind_eq_ok h
  obtain ⟨_, d₁, hadd, h⟩ := Generation.exists_of_bind_eq_ok h
  dsimp only at h
  split at h
  · cases h
  · obtain ⟨draft, d₂, hget, h⟩ := Generation.exists_of_bind_eq_ok h
    cases hset
    cases hget
    obtain ⟨rfl, hreadable⟩ := Draft.eq_extend_of_foldlM (Generation.foldlM_add_of_run hadd)
    cases hmisuse : Code.moduleMisuse? ((Draft.empty (keptSources d sources)).extend d.segments).body
      with
    | some misuse =>
      rw [hmisuse] at h
      cases h
    | none =>
      rw [hmisuse] at h
      cases h
      exact ⟨rfl, rfl, rfl, hmisuse, hreadable⟩

theorem laysOut_of_generate {d : Document} {sources : List (Text × Text)}
    {warnings : List IncludeWarning} {script : Script}
    (h : generate d sources warnings = .ok script) : script.LaysOut d :=
  laysOut_of_script h

end Stencil
