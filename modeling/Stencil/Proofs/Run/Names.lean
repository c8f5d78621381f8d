import Stencil.Proofs.Code.Word
import Stencil.Proofs.Run.Inert
import Stencil.Proofs.Run.Sinks
import Stencil.Proofs.Scan.RoundTrip

/-!
# Names in code and in interpolations

Code and interpolations share the variables of the top level. A name reaches them in two ways: in
code it is a word, which stands for its compatibility form, and in an interpolation it is taken as
it is spelled. For a name that is its own compatibility form the two ways meet, and an interpolation
writes the value that code has bound to the name last.

* `Reached`: the state in which a run comes to a segment.
* `exists_bound_of_reached`: what a variable is worth there.
* `names_are_shared`: names in code and in interpolations.
* `not_names_are_shared_of_ordinal`: a name that is not its own compatibility form.
-/

namespace Stencil

open Code (Expr Stmt)

/-! ## What was written stays -/

namespace Lockstep

theorem keepWritten_binds {f : Nat → Nat} (texts : List Text) (name : Text) :
    (keepWritten f texts).Binds .top name := by
  constructor
  · rintro v m m' ⟨rfl, hkept⟩
    exact .done () (And.intro rfl hkept)
  · rintro line m m' ⟨rfl, hkept⟩
    by_cases hbound : (m.globals.lookup name).isSome = true
    · simp only [Scope.unbind, Scope.top, Machine.globals_mapLines, hbound, if_true]
      exact .done () (And.intro rfl hkept)
    · simp only [Scope.unbind, Scope.top, Machine.globals_mapLines, hbound]
      exact .raised _ line (And.intro rfl hkept)

end Lockstep

variable {s : Setting}

theorem written_suffix_runScript (s : Setting) (body : List Stmt) (m : Machine) :
    m.written <:+ (runScript s body m).machine.written :=
  Lockstep.written_suffix_of_keeps (Lockstep.same_runScript s fun name _ =>
    Lockstep.keepWritten_binds m.written name)

/-- A segment takes back nothing that was written. -/
theorem Segment.written_suffix_interpret (seg : Segment) (s : Setting) (m : Machine) :
    m.written <:+ (seg.interpret s m).machine.written := by
  rw [interpret]
  cases seg.body with
  | literal t =>
    cases t with
    | nil => exact List.suffix_rfl
    | cons c t =>
      exact Lockstep.written_suffix_of_same
        (fun L => (Lockstep.same_write s.outlet 0 _).andReturn ()) m
  | interpolation x style =>
    have hsame (L : Lockstep fun _ => 0) := (same_interpolation (L := L) s 0 x style).andReturn ()
    simp only [evaluate_name, bind_assoc, escapeValue_styleValue] at hsame
    exact Lockstep.written_suffix_of_same hsame m
  | code t =>
    refine (written_suffix_runScript s seg.code m).trans ?_
    show _ <:+ ((runScript s seg.code >>= fun _ => pure ()) m).machine.written
    rw [Action.bind_def, Action.bind]
    cases runScript s seg.code m <;> exact List.suffix_rfl
  | directive path => exact List.suffix_rfl

/-! ## Reaching a segment -/

/-- Going through segments leads from the first state to the second. -/
def Reached (s : Setting) (segs : List Segment) (m m' : Machine) : Prop :=
  (Action.stages (segs.map (Segment.interpret s)) m).2 = .done () m'

theorem reached_cons_iff {seg : Segment} {segs : List Segment} {m m' : Machine} :
    Reached s (seg :: segs) m m' ↔
      ∃ m₁, seg.interpret s m = .done () m₁ ∧ Reached s segs m₁ m' := by
  unfold Reached
  rw [List.map_cons, Action.stages]
  cases hseg : seg.interpret s m with
  | done a m₁ => simp
  | raised e line m₁ => simp
  | exhausted m₁ => simp

theorem reached_append_iff {earlier later : List Segment} {m m' : Machine} :
    Reached s (earlier ++ later) m m' ↔ ∃ m₁, Reached s earlier m m₁ ∧ Reached s later m₁ m' := by
  induction earlier generalizing m with
  | nil => simp [Reached, Action.stages]
  | cons seg earlier ih =>
    simp only [List.cons_append, reached_cons_iff, ih]
    tauto

/-- Segments that are reached leave alone the variables that they do not bind. -/
theorem Reached.lookup_eq {segs : List Segment} {m m' : Machine} (h : Reached s segs m m')
    {name : Text} (hname : ∀ seg ∈ segs, name ∉ Stmt.boundAll seg.code) :
    m'.globals.lookup name = m.globals.lookup name := by
  induction segs generalizing m with
  | nil =>
    obtain rfl : m = m' := (Outcome.done.inj h).2
    rfl
  | cons seg segs ih =>
    obtain ⟨hseg, hsegs⟩ := List.forall_mem_cons.mp hname
    obtain ⟨m₁, hfirst, hrest⟩ := reached_cons_iff.mp h
    have hkeep := lookup_interpret_of_not_mem s hseg m
    rw [hfirst] at hkeep
    exact (ih hrest hsegs).trans hkeep

/-- What was written before a segment was reached stands in front of what the rest writes. -/
theorem written_suffix_stages (segs : List Segment) (m : Machine) :
    m.written <:+ (Action.stages (segs.map (Segment.interpret s)) m).2.machine.written := by
  induction segs generalizing m with
  | nil => exact List.suffix_rfl
  | cons seg segs ih =>
    have hseg := seg.written_suffix_interpret s m
    rw [List.map_cons, Action.stages]
    cases hfirst : seg.interpret s m with
    | done a m₁ =>
      rw [hfirst] at hseg
      exact hseg.trans (ih m₁)
    | raised e line m₁ =>
      rw [hfirst] at hseg
      exact hseg
    | exhausted m₁ =>
      rw [hfirst] at hseg
      exact hseg

theorem Reached.stages_append {earlier later : List Segment} {m m' : Machine}
    (h : Reached s earlier m m') :
    (Action.stages ((earlier ++ later).map (Segment.interpret s)) m).2 =
      (Action.stages (later.map (Segment.interpret s)) m').2 := by
  induction earlier generalizing m with
  | nil =>
    obtain rfl : m = m' := (Outcome.done.inj h).2
    rfl
  | cons seg earlier ih =>
    obtain ⟨m₁, hfirst, hrest⟩ := reached_cons_iff.mp h
    rw [List.cons_append, List.map_cons, Action.stages, hfirst]
    exact ih hrest

/-! ## The last binding -/

/-- Of all statements in segments, the last that may bind the name is `st`: it stands in the block
`seg`, behind the segments `before` and the statements `pre` of the block. -/
def BoundLast (name : Text) (segs before : List Segment) (seg : Segment) (pre : List Stmt)
    (st : Stmt) : Prop :=
  ∃ between post, segs = before ++ seg :: between ∧ seg.code = pre ++ st :: post ∧
    name ∉ Stmt.boundAll post ∧ ∀ seg' ∈ between, name ∉ Stmt.boundAll seg'.code

/-- Nothing is misplaced in the code of a segment if nothing is in the statements of all. -/
theorem misuseIn?_code_of_parts {first : Nat} {segs : List Segment}
    (h : Stmt.misuseIn? false false (parts first segs).flatten = none) :
    ∀ seg ∈ segs, Stmt.misuseIn? false false seg.code = none := by
  induction segs generalizing first with
  | nil => simp
  | cons seg segs ih =>
    have hparts : parts first (seg :: segs) =
        seg.statements first :: parts (first + seg.height) segs := rfl
    rw [hparts, List.flatten_cons, Stmt.misuseIn?_append, Option.or_eq_none_iff] at h
    refine List.forall_mem_cons.mpr ⟨?_, ih h.2⟩
    have hseg := h.1
    unfold Segment.statements at hseg
    cases hbody : seg.body with
    | code t =>
      rw [hbody] at hseg
      dsimp only at hseg
      rwa [Stmt.misuseIn?_mapLinesAll, Option.map_eq_none_iff] at hseg
    | literal t | interpolation name style | directive path =>
      rw [Segment.code, hbody]
      rfl

theorem exists_of_runScript_append {earlier later : List Stmt} {m m' : Machine}
    (h : runScript s (earlier ++ later) m = .done .next m') :
    ∃ m₁, runScript s earlier m = .done .next m₁ ∧ runScript s later m₁ = .done .next m' := by
  rw [runScript, executeAll_append] at h
  obtain ⟨flow, m₁, hearlier, hlater⟩ := Action.exists_of_bind_eq_done h
  cases flow with
  | next => exact ⟨m₁, hearlier, hlater⟩
  | leave v | «break» | «continue» => cases hlater

theorem exists_of_runScript_cons {st : Stmt} {later : List Stmt} {m m' : Machine}
    (h : runScript s (st :: later) m = .done .next m') :
    ∃ m₁, execute s (callTop s) .top st m = .done .next m₁ ∧
      runScript s later m₁ = .done .next m' := by
  obtain ⟨flow, m₁, hst, hlater⟩ := Action.exists_of_bind_eq_done h
  cases flow with
  | next => exact ⟨m₁, hst, hlater⟩
  | leave v | «break» | «continue» => cases hlater

/-- A block in which nothing is misplaced is run to its end when it is gone through. -/
theorem Segment.runScript_of_interpret {seg : Segment} (hne : seg.code ≠ [])
    (hmisuse : Stmt.misuseIn? false false seg.code = none) {m m' : Machine}
    (h : seg.interpret s m = .done () m') : runScript s seg.code m = .done .next m' := by
  unfold interpret at h
  cases hbody : seg.body with
  | code t =>
    rw [hbody] at h
    obtain ⟨flow, m₁, hrun, hpure⟩ := Action.exists_of_bind_eq_done h
    obtain rfl := eq_next_of_runScript hmisuse hrun
    cases hpure
    exact hrun
  | literal t | interpolation name style | directive path =>
    rw [code, hbody] at hne
    exact absurd rfl hne

/-- **A variable keeps the value that it was bound to last.** When a run has come through segments,
it has come through the statement that bound the variable last, and the variable is worth what it
was right behind that statement. -/
theorem exists_bound_of_reached {name : Text} {segs before : List Segment} {seg : Segment}
    {pre : List Stmt} {st : Stmt} (hlast : BoundLast name segs before seg pre st)
    (hmisuse : Stmt.misuseIn? false false seg.code = none) {m m' : Machine}
    (h : Reached s segs m m') :
    ∃ m₁ m₀ m₂, Reached s before m m₁ ∧ runScript s pre m₁ = .done .next m₀ ∧
      execute s (callTop s) .top st m₀ = .done .next m₂ ∧
      m'.globals.lookup name = m₂.globals.lookup name := by
  obtain ⟨between, post, rfl, hcode, hpost, hbetween⟩ := hlast
  obtain ⟨m₁, hbefore, hrest⟩ := reached_append_iff.mp h
  obtain ⟨m₃, hseg, hafter⟩ := reached_cons_iff.mp hrest
  have hne : seg.code ≠ [] := by simp [hcode]
  have hbody := seg.runScript_of_interpret hne hmisuse hseg
  rw [hcode] at hbody
  obtain ⟨m₀, hpre, hrest⟩ := exists_of_runScript_append hbody
  obtain ⟨m₂, hst, hpostRun⟩ := exists_of_runScript_cons hrest
  refine ⟨m₁, m₀, m₂, hbefore, hpre, hst, ?_⟩
  have hkeep := lookup_runScript_of_not_mem s hpost m₂
  rw [hpostRun] at hkeep
  exact (hafter.lookup_eq hbetween).trans hkeep

/-- An assignment to a name gives it the value of the expression. -/
theorem exists_evaluate_of_assign {span : Code.Span} {line : Nat} {name : Text} {e : Expr}
    {m m' : Machine}
    (h : execute s (callTop s) .top (.assign span [.name line name] e) m = .done .next m') :
    ∃ v m₁, evaluate s (callTop s) .top e m = .done v m₁ ∧ m'.globals.lookup name = some v := by
  obtain ⟨v, m₁, hvalue, hassign⟩ := Action.exists_of_bind_eq_done h
  refine ⟨v, m₁, hvalue, ?_⟩
  have hm' : m' = { m₁ with globals := bindName name v m₁.globals } := by
    cases hassign
    rfl
  rw [hm']
  exact lookup_bindName_self name v m₁.globals

/-- An interpolation writes the text of the value that its variable has. -/
theorem exists_interpret_interpolation {seg : Segment} {name : Text} {style : Option Text}
    (hbody : seg.body = .interpolation name style) (hname : Text.isName name = true)
    (hreserved : name ≠ Code.reservedName) {escapes : Registry} {m : Machine} {v : Value} {t : Text}
    (hvalue : m.globals.lookup name = some v) (hshows : escapes.Shows m.heap style v t) :
    ∃ m', seg.interpret ⟨.open, escapes, roundLimit⟩ m = .done () m' ∧ m.Wrote t m' := by
  have hplain : seg.Plain := by rwa [Segment.Plain, hbody]
  have hfinds : seg.body.FindsValue escapes (fun _ _ => t) m.globals m.heap := by
    intro name' style' heq
    obtain ⟨rfl, rfl⟩ := Body.interpolation.inj (hbody.symm.trans heq)
    exact ⟨hreserved, v, hvalue, hshows⟩
  have hwrites := hplain.exists_interpret hfinds
  rwa [hbody] at hwrites

/-! ## An assignment in front of an interpolation -/

/-- A block with code, and behind it an interpolation of the name as it is. -/
def blockAndName (code n : Text) : Text :=
  "<?py".toList ++ code ++ "?>\x7b$".toList ++ n ++ ",raw\x7d".toList

/-- A text that is written out, or a variable. -/
inductive SimpleValue : Expr → Prop where
  | text (line : Nat) (t : Text) : SimpleValue (.constant line (.text t))
  | name (line : Nat) {name : Text} (h : Text.isName name = true) : SimpleValue (.name line name)

theorem SimpleValue.mapLines {e : Expr} (h : SimpleValue e) (f : Nat → Nat) :
    SimpleValue (e.mapLines f) := by
  cases h with
  | text line t => exact .text (f line) t
  | name line h => exact .name (f line) h

theorem SimpleValue.harmless_assign {e : Expr} (h : SimpleValue e) {n : Text}
    (hn : Text.isName n = true) (hreserved : n ≠ Code.reservedName) (span : Code.Span)
    (line : Nat) : (Stmt.assign span [.name line n] e).Harmless := by
  have hconstant := not_mem_constantNames hn
  have hvalue : Expr.constantName? e = none ∧ e.parts = [e] ∧ e.misuse? false = none := by
    cases h with
    | text line t => exact ⟨rfl, rfl, rfl⟩
    | name line hname =>
      refine ⟨?_, rfl, rfl⟩
      rw [Expr.constantName?, if_neg (by simpa using not_mem_constantNames hname)]
  have hname : Expr.constantName? (.name line n) = none := by
    rw [Expr.constantName?, if_neg (by simpa using hconstant)]
  have htarget : Expr.reservedLineIn? true [.name line n] = none := by
    rw [Expr.reservedLineIn?, Expr.reservedLine?, if_neg hreserved]
    rfl
  obtain ⟨hvalue, hparts, hmisuse⟩ := hvalue
  have hall : Expr.partsAll [e, .name line n] = [e, .name line n] := by
    rw [Expr.partsAll, hparts]
    rfl
  refine ⟨?_, rfl, ?_⟩
  · show (Expr.partsAll [e, .name line n]).findSome? Expr.constantName? = none
    rw [hall, List.findSome?_cons, hvalue, List.findSome?_cons, hname]
    rfl
  · show (Expr.misuseIn? false [e, .name line n]).or
      ((Expr.reservedLineIn? true [.name line n]).map Code.reservedMisuse) = none
    rw [Expr.misuseIn?, hall, List.findSome?_cons, hmisuse, htarget]
    rfl

/-- A name that an interpolation takes is taken with a style, too. -/
theorem interpolation?_raw {n : Text} (h : interpolation? ('$' :: n) = some (n, none)) :
    interpolation? (interpolationText n (some "raw".toList)) = some (n, some "raw".toList) := by
  obtain ⟨hname, hword, -⟩ := words_of_interpolation? h
  have hcomma : Text.isWord ',' = false := by decide +kernel
  have hstyle : (! "raw".toList.isEmpty && "raw".toList.all Text.isWord) = true := by
    decide +kernel
  have htake : (n ++ ',' :: "raw".toList).takeWhile Text.isWord = n := by
    rw [List.takeWhile_append_of_pos hword, List.takeWhile_cons_of_neg (by simp [hcomma]),
      List.append_nil]
  have hdrop : (n ++ ',' :: "raw".toList).dropWhile Text.isWord = ',' :: "raw".toList := by
    rw [List.dropWhile_append_of_pos hword, List.dropWhile_cons_of_neg (by simp [hcomma])]
  have htext : interpolationText n (some "raw".toList) = '$' :: (n ++ ',' :: "raw".toList) := rfl
  rw [htext, interpolation?, htake, if_pos hname, hdrop]
  show (if _ then _ else _) = _
  rw [if_pos hstyle]

theorem exists_scan_blockAndName {code n : Text} (hclosed : ¬ "?>".toList <:+: code)
    (hspace : code.head? = some ' ') (h : interpolation? ('$' :: n) = some (n, none))
    (title : Text) :
    ∃ line : Int, scanTemplate (blockAndName code n) title = .ok ⟨title,
      [⟨.code code, title, 1⟩, ⟨.interpolation n (some "raw".toList), title, line⟩],
      blockAndName code n⟩ := by
  let bodies : List Body := [.code code, .interpolation n (some "raw".toList)]
  have hspell : ∀ b ∈ bodies, b.Spellable title := by
    refine List.forall_mem_cons.mpr ⟨⟨hclosed, ?_⟩, List.forall_mem_cons.mpr
      ⟨interpolation?_raw h, nofun⟩⟩
    intro c hc
    obtain rfl : ' ' = c := Option.some.inj (hspace.symm.trans hc)
    decide +kernel
  have hapart : bodies.IsChain fun b b' => ¬ (b.IsLiteral ∧ b'.IsLiteral) := by
    simp [bodies, Body.IsLiteral]
  have hspelling : bodies.flatMap Body.spelling = blockAndName code n := by
    have hregroup (a b c d e f : Text) :
        a ++ code ++ b ++ (c ++ n ++ d ++ e ++ f ++ []) =
          a ++ code ++ (b ++ c) ++ n ++ (d ++ e ++ f) := by simp
    exact hregroup "<?py".toList "?>".toList "\x7b$".toList ",".toList "raw".toList "\x7d".toList
  have hpieces := pieces_eq_ok_iff.mpr (segmentation_of_spellable hspell hapart)
  rw [hspelling] at hpieces
  have hsegments : segmentsFrom title 1 (bodies.map Body.piece) =
      [⟨.code code, title, 1⟩, ⟨.interpolation n (some "raw".toList), title,
        (1 + (Piece.code code).spelling.count '\n' : Nat)⟩] := rfl
  rw [scanTemplate_of_pieces hpieces title, hsegments]
  exact ⟨_, rfl⟩

section

variable {code n : Text} {e : Expr} (hclosed : ¬ "?>".toList <:+: code)
  (hspace : code.head? = some ' ') (hn : interpolation? ('$' :: n) = some (n, none))
  (hreserved : n ≠ Code.reservedName)
  (hparse : Code.parse (Block.ofText code 1).code = .ok [.assign ⟨1, 1⟩ [.name 1 n] e])
  (he : SimpleValue e)

include hclosed hspace hn hreserved hparse he

/-- A block that assigns to a name compiles with an interpolation of the name. -/
theorem exists_compile_blockAndName (env : Environment) (tree : FileTree) {r : CompileRequest}
    (hsource : r.source = some (blockAndName code n)) (hfile : r.sourceFile = none)
    (hnames : ∀ name ∈ r.reportedName, '\x00' ∉ name) :
    ∃ script d title line, (env.compile tree r).result = .ok script ∧ script.LaysOut d ∧
      d.segments = [⟨.code code, title, 1⟩, ⟨.interpolation n (some "raw".toList), title, line⟩] := by
  let title := Environment.reportedOr r.reportedName "<string>".toList
  obtain ⟨line, hscan⟩ := exists_scan_blockAndName hclosed hspace hn title
  let block : Segment := ⟨.code code, title, 1⟩
  let shown : Segment := ⟨.interpolation n (some "raw".toList), title, line⟩
  let d : Document := ⟨title, [block, shown], blockAndName code n⟩
  have hname := (words_of_interpolation? hn).1
  have htitle : '\x00' ∉ title := Environment.not_nul_reportedOr hnames
  have hcode : block.code = [.assign ⟨1, 1⟩ [.name 1 n] e] := by
    show (Code.parse (Block.ofText code 1).code).toOption.getD [] = _
    rw [hparse]
    rfl
  have hgenerable : d.Generable := by
    refine ⟨?_, htitle, moduleMisuse?_eq_none fun st hst => ?_⟩
    · refine List.forall_mem_cons.mpr ⟨⟨?_, fun _ _ => htitle⟩, List.forall_mem_cons.mpr
        ⟨⟨trivial, fun t ht => by cases ht⟩, nofun⟩⟩
      show Code.parse (Block.ofText code 1).code = .ok block.code
      rw [hparse, hcode]
    · have hparts : (parts 1 d.segments).flatten =
          Stmt.mapLinesAll (· + (1 - 1)) block.code ++
            [interpolationStmt (1 + block.height) n (some "raw".toList)] := by
        simp [d, parts, layout, block, shown, Segment.statements]
      rw [hparts, hcode, List.mem_append] at hst
      rcases hst with hst | hst
      · obtain rfl := List.mem_singleton.mp hst
        exact (he.mapLines _).harmless_assign hname hreserved _ _
      · obtain rfl := List.mem_singleton.mp hst
        exact harmless_interpolationStmt _ _ hname
  have hkept : ∀ s ∈ d.segments, s.path? = none :=
    List.forall_mem_cons.mpr ⟨rfl, List.forall_mem_cons.mpr ⟨rfl, nofun⟩⟩
  obtain ⟨script, hscript, hlaid, -⟩ := exists_compile_of_kept
    (Environment.readSource_of_source hsource hfile : env.readSource tree r = _) hscan hkept
    hgenerable
  exact ⟨script, d, title, line, hscript, hlaid, rfl⟩

/-- **A block that binds a name to a text is followed by the text**, if that is what its value is
worth when the run begins. -/
theorem expand_blockAndName (hhelper : n ∉ helperNames) {env : Environment}
    {r : Environment.ExpandRequest} {c : Config} {heap : Heap} {context : List (Text × Value)}
    {t : Text} (hexecutor : env.executor = Executor.standard)
    (hsource : r.source = some (blockAndName code n)) (hfile : r.sourceFile = none)
    (hnames : ∀ name ∈ r.reportedFilename, '\x00' ∉ name) (hconfig : env.configFor r = .ok c)
    (hcaptured : c.output = .captured)
    (hshows : env.escapes.Shows heap (some "raw".toList) (.text t) t)
    (hvalue : let s : Setting := ⟨.open, env.escapes, roundLimit⟩
      let begun := Machine.start c.moduleName context heap
      evaluate s (callTop s) .top e begun = .done (.text t) begun) (colour : Bool)
    (tree : FileTree) :
    (env.expand colour tree r heap context).result = .ok (some t) := by
  let s : Setting := ⟨.open, env.escapes, roundLimit⟩
  let begun := Machine.start c.moduleName context heap
  let bound : Machine := { begun with globals := bindName n (.text t) begun.globals }
  obtain ⟨script, d, title, line, hscript, hlaid, hsegments⟩ :=
    exists_compile_blockAndName hclosed hspace hn hreserved hparse he env tree
      (r := r.toCompile) hsource hfile hnames
  let block : Segment := ⟨.code code, title, 1⟩
  let shown : Segment := ⟨.interpolation n (some "raw".toList), title, line⟩
  have hcode : block.code = [.assign ⟨1, 1⟩ [.name 1 n] e] := by
    show (Code.parse (Block.ofText code 1).code).toOption.getD [] = _
    rw [hparse]
    rfl
  have hblock : block.interpret s begun = .done () bound := by
    have hassign : execute s (callTop s) .top (.assign ⟨1, 1⟩ [.name 1 n] e) begun =
        .done .next bound := Action.bind_of_done hvalue
    have hrun : runScript s block.code begun = .done .next bound := by
      rw [hcode]
      exact Action.bind_of_done hassign
    exact Action.bind_of_done hrun
  obtain ⟨m', hshown, hwrote⟩ := exists_interpret_interpolation (rfl : shown.body = _)
    (words_of_interpolation? hn).1 hreserved (m := bound)
    (lookup_bindName_self n (.text t) begun.globals) hshows
  have hdone : (Action.stages (d.segments.map (Segment.interpret s)) begun).2 = .done () m' := by
    rw [hsegments]
    exact reached_cons_iff.mpr ⟨bound, hblock, reached_cons_iff.mpr ⟨m', hshown, rfl⟩⟩
  have hkept : HelpersKept s d.segments begun := by
    refine helpersKept_of_not_mem_boundAll s (lookup_write_start ..) (lookup_escape_start ..) ?_
    rw [hsegments]
    have hwrite : "_write".toList ≠ n := fun heq => hhelper (heq ▸ by decide)
    have hescape : "_escape".toList ≠ n := fun heq => hhelper (heq ▸ by decide)
    refine List.forall_mem_cons.mpr ⟨?_, List.forall_mem_cons.mpr
      ⟨⟨List.not_mem_nil, List.not_mem_nil⟩, nofun⟩⟩
    rw [hcode]
    exact ⟨fun hmem => hwrite (List.mem_singleton.mp hmem),
      fun hmem => hescape (List.mem_singleton.mp hmem)⟩
  obtain ⟨m, hrun, houtput⟩ := exists_standard_of_stages hlaid hkept hdone
  rw [Environment.expand_of_compiled hconfig hscript, Environment.run, hexecutor,
    run_captured_of_done hcaptured hrun, houtput, hwrote.output_eq]
  rfl

end

/-! ## Names -/

/-- A name that code and interpolations can have in common: an interpolation takes it, it is its own
compatibility form, and it is neither `__debug__`, which no code can bind, nor the name of a
helper. -/
structure SharedName (n : Text) : Prop where
  taken : interpolation? ('$' :: n) = some (n, none)
  form_eq : Text.compatibilityForm n = n
  ne_reserved : n ≠ Code.reservedName
  not_helper : n ∉ helperNames

theorem SharedName.isName {n : Text} (h : SharedName n) : Text.isName n = true :=
  (words_of_interpolation? h.taken).1

/-- Code on the line of its mark begins behind the blanks. -/
theorem Block.ofText_of_not_mem {t : Text} (h : '\n' ∉ t) (line : Int) :
    Block.ofText t line = ⟨t.dropWhile Text.isIndent, line⟩ := by
  have hcut : Text.cutAt? ['\n'] t = none := by
    rw [Text.cutAt?_eq_none_iff]
    exact fun hwithin => h (hwithin.subset List.mem_cons_self)
  rw [Block.ofText, hcut]

/-- A block with a blank, a name and more begins with the name. -/
theorem Block.ofText_name {n : Text} (h : Text.isName n = true) {rest : Text} (hrest : '\n' ∉ rest)
    (line : Int) : Block.ofText (' ' :: n ++ rest) line = ⟨n ++ rest, line⟩ := by
  have hbreak : '\n' ∉ ' ' :: n ++ rest := by
    have hname := Code.not_mem_of_isName h (by decide : Code.isWordPart '\n' = false)
    simp [hname, hrest]
  have hdrop : (' ' :: n ++ rest).dropWhile Text.isIndent = n ++ rest := by
    obtain ⟨c, t, rfl, hc, -⟩ := Code.exists_cons_of_isName h
    have hindent : Text.isIndent c = false := by
      have hne (d : Char) (hd : Code.isWordPart d = false) : c ≠ d := fun heq =>
        Code.not_mem_of_isName h hd (heq ▸ List.mem_cons_self)
      simp [Text.isIndent, hne ' ' (by decide), hne '\t' (by decide)]
    rw [List.cons_append, List.dropWhile_cons_of_pos (by decide), List.cons_append,
      List.dropWhile_cons_of_neg (by simp [hindent])]
  rw [Block.ofText_of_not_mem hbreak, hdrop]

/-- No mark is closed in a text without question marks. -/
theorem not_closed_of_not_mem {t : Text} (h : '?' ∉ t) : ¬ "?>".toList <:+: t := fun hwithin =>
  h (hwithin.subset List.mem_cons_self)

section

variable {env : Environment} {tree : FileTree} {r : Environment.ExpandRequest} {c : Config}
  {heap : Heap} {context : List (Text × Value)} (hexecutor : env.executor = Executor.standard)
  (hfile : r.sourceFile = none) (hnames : ∀ name ∈ r.reportedFilename, '\x00' ∉ name)
  (hconfig : env.configFor r = .ok c) (hcaptured : c.output = .captured)

include hexecutor hfile hnames hconfig hcaptured

/-- What code binds to a name is what an interpolation of the name writes. -/
theorem SharedName.expand_text {n : Text} (hn : SharedName n)
    (hsource : r.source =
      some ("<?py ".toList ++ n ++ " = 'v' ?>\x7b$".toList ++ n ++ ",raw\x7d".toList))
    (hshows : env.escapes.Shows heap (some "raw".toList) (.text ['v']) ['v']) (colour : Bool) :
    (env.expand colour tree r heap context).result = .ok (some ['v']) := by
  let code : Text := ' ' :: n ++ " = 'v' ".toList
  have htemplate : "<?py ".toList ++ n ++ " = 'v' ?>\x7b$".toList ++ n ++ ",raw\x7d".toList =
      blockAndName code n := by
    have hregroup (a b d e f : Text) :
        a ++ b ++ n ++ (d ++ e) ++ n ++ f = a ++ (b ++ n ++ d) ++ e ++ n ++ f := by simp
    exact hregroup "<?py".toList [' '] " = 'v' ".toList "?>\x7b$".toList ",raw\x7d".toList
  have hclosed : '?' ∉ code := by
    simp [code, Code.not_mem_of_isName hn.isName (by decide : Code.isWordPart '?' = false)]
  have hparse : Code.parse (Block.ofText code 1).code =
      .ok [.assign ⟨1, 1⟩ [.name 1 n] (.constant 1 (.text ['v']))] := by
    rw [Block.ofText_name hn.isName (by decide)]
    exact Code.parse_assignText hn.isName hn.form_eq
  exact expand_blockAndName (not_closed_of_not_mem hclosed) rfl hn.taken hn.ne_reserved hparse
    (.text 1 ['v']) hn.not_helper hexecutor (hsource.trans (congrArg some htemplate)) hfile
    hnames hconfig hcaptured hshows rfl colour tree

/-- What the caller binds to a name is what code assigns when it assigns the name. -/
theorem SharedName.expand_name {m n t : Text} (hn : SharedName n) (hm : SharedName m)
    (hbound : boundIn context n = some (.text t))
    (hsource : r.source = some ("<?py ".toList ++ m ++ " = ".toList ++ n ++ " ?>\x7b$".toList ++ m ++
      ",raw\x7d".toList))
    (hshows : env.escapes.Shows heap (some "raw".toList) (.text t) t) (colour : Bool) :
    (env.expand colour tree r heap context).result = .ok (some t) := by
  let code : Text := ' ' :: m ++ (" = ".toList ++ n ++ [' '])
  have htemplate : "<?py ".toList ++ m ++ " = ".toList ++ n ++ " ?>\x7b$".toList ++ m ++
      ",raw\x7d".toList = blockAndName code m := by
    have hregroup (a b d e f g : Text) :
        a ++ b ++ m ++ d ++ n ++ (e ++ f) ++ m ++ g =
          a ++ (b ++ m ++ (d ++ n ++ e)) ++ f ++ m ++ g := by simp
    exact hregroup "<?py".toList [' '] " = ".toList [' '] "?>\x7b$".toList ",raw\x7d".toList
  have hclosed : '?' ∉ code := by
    have hmark : Code.isWordPart '?' = false := by decide
    simp [code, Code.not_mem_of_isName hm.isName hmark, Code.not_mem_of_isName hn.isName hmark]
  have hparse : Code.parse (Block.ofText code 1).code =
      .ok [.assign ⟨1, 1⟩ [.name 1 m] (.name 1 n)] := by
    have hbreak : '\n' ∉ " = ".toList ++ n ++ [' '] := by
      simp [Code.not_mem_of_isName hn.isName (by decide : Code.isWordPart '\n' = false)]
    have hread := Code.parse_assignName hn.isName hn.form_eq hm.isName hm.form_eq
    rw [Block.ofText_name hm.isName hbreak]
    simpa only [List.append_assoc] using hread
  have hvalue : let s : Setting := ⟨.open, env.escapes, roundLimit⟩
      let begun := Machine.start c.moduleName context heap
      evaluate s (callTop s) .top (.name 1 n) begun = .done (.text t) begun := by
    intro s begun
    have hlookup : begun.globals.lookup n = some (.text t) := by
      rw [lookup_start hn.not_helper, hbound, Option.some_or]
    rw [evaluate_name]
    show Action.attempt 1 (Scope.top.lookup begun n) begun = _
    rw [Scope.lookup, if_neg hn.ne_reserved]
    show Action.attempt 1 (begun.global n) begun = _
    rw [Machine.global, hlookup]
    rfl
  exact expand_blockAndName (not_closed_of_not_mem hclosed) rfl hm.taken hm.ne_reserved hparse
    (.name 1 hn.isName) hm.not_helper hexecutor (hsource.trans (congrArg some htemplate)) hfile
    hnames hconfig hcaptured hshows hvalue colour tree

end

/-- What an interpolation writes stands in the output of the script behind what was written
before. -/
theorem exists_output_of_reached {script : Script} {d : Document} (hlaid : script.LaysOut d)
    {earlier after : List Segment} {x : Segment} (hsegments : d.segments = earlier ++ x :: after)
    {n : Text} {style : Option Text} (hx : x.body = .interpolation n style) (hn : SharedName n)
    {escapes : Registry} {moduleName : Text} {context : List (Text × Value)} {heap : Heap}
    (hkept : HelpersKept ⟨.open, escapes, roundLimit⟩ d.segments (.start moduleName context heap))
    {m : Machine}
    (hreached : Reached ⟨.open, escapes, roundLimit⟩ earlier (.start moduleName context heap) m)
    {v : Value} {t : Text} (hvalue : m.globals.lookup n = some v)
    (hshows : escapes.Shows m.heap style v t) :
    ∃ more, (Executor.standard ⟨.open, escapes, roundLimit⟩ script
      ⟨newNamespace moduleName context, heap, [], []⟩).machine.output = m.output ++ t ++ more := by
  obtain ⟨m', hinterpret, hwrote⟩ :=
    exists_interpret_interpolation hx hn.isName hn.ne_reserved hvalue hshows
  have hagree := agree_standard_interpret hlaid hkept
  have hrest : Reached ⟨.open, escapes, roundLimit⟩ (earlier ++ [x])
      (.start moduleName context heap) m' :=
    reached_append_iff.mpr ⟨m, hreached, reached_cons_iff.mpr ⟨m', hinterpret, rfl⟩⟩
  have hlist : d.segments = (earlier ++ [x]) ++ after := by
    rw [hsegments, List.append_assoc]
    rfl
  rw [hlist, hrest.stages_append] at hagree
  obtain ⟨more, hmore⟩ := exists_output_eq_append (written_suffix_stages after m')
  refine ⟨more, ?_⟩
  rw [Machine.output, hagree.machine.written_eq, ← Machine.output, hmore, hwrote.output_eq]

/-- **A name means the same variable in code and in interpolations.** A word of code that spells a
shared name is that name. A block that binds it to a text is followed by the text where the name is
interpolated as it is; and what the caller binds to it is what another name is bound to when it is
assigned. And whatever the segments of a document are and whichever files they come from: if a run
comes to an interpolation, it has come through the statement that bound the name last, and writes
the value that the name had right behind that statement, which after an assignment to the name is
the value of the expression. -/
theorem names_are_shared {n : Text} (hn : SharedName n) :
    Code.wordToken n = .ok (.name n) ∧
    (∀ (env : Environment) (colour : Bool) (tree : FileTree) (r : Environment.ExpandRequest)
      (c : Config) (heap : Heap) (context : List (Text × Value)),
      env.executor = Executor.standard → r.sourceFile = none →
      (∀ name ∈ r.reportedFilename, '\x00' ∉ name) → env.configFor r = .ok c →
      c.output = .captured →
      (r.source = some ("<?py ".toList ++ n ++ " = 'v' ?>\x7b$".toList ++ n ++ ",raw\x7d".toList) →
        env.escapes.Shows heap (some "raw".toList) (.text ['v']) ['v'] →
        (env.expand colour tree r heap context).result = .ok (some ['v'])) ∧
      ∀ (m t : Text), SharedName m → boundIn context n = some (.text t) →
        r.source = some ("<?py ".toList ++ m ++ " = ".toList ++ n ++ " ?>\x7b$".toList ++ m ++
          ",raw\x7d".toList) →
        env.escapes.Shows heap (some "raw".toList) (.text t) t →
        (env.expand colour tree r heap context).result = .ok (some t)) ∧
    ∀ (env : Environment) (tree : FileTree) (r : CompileRequest) (script : Script),
      (env.compile tree r).result = .ok script →
      ∃ d, env.resolved? tree r = some d ∧
        ∀ (earlier after before : List Segment) (x seg : Segment) (pre : List Stmt) (st : Stmt)
          (style : Option Text),
        d.segments = earlier ++ x :: after → x.body = .interpolation n style →
        BoundLast n earlier before seg pre st →
        ∀ (escapes : Registry) (moduleName : Text) (context : List (Text × Value)) (heap : Heap)
          (m : Machine),
          let s : Setting := ⟨.open, escapes, roundLimit⟩
          let begun := Machine.start moduleName context heap
          HelpersKept s d.segments begun → Reached s earlier begun m →
          ∃ m₁ m₀ m₂, Reached s before begun m₁ ∧ runScript s pre m₁ = .done .next m₀ ∧
            execute s (callTop s) .top st m₀ = .done .next m₂ ∧
            (∀ v t, m₂.globals.lookup n = some v → escapes.Shows m.heap style v t →
              ∃ more, (Executor.standard s script
                ⟨newNamespace moduleName context, heap, [], []⟩).machine.output =
                  m.output ++ t ++ more) ∧
            ∀ span line e, st = .assign span [.name line n] e →
              ∃ v m', evaluate s (callTop s) .top e m₀ = .done v m' ∧
                m₂.globals.lookup n = some v := by
  refine ⟨?_, ?_, ?_⟩
  · rw [Code.wordToken_of_isName hn.isName, hn.form_eq]
  · intro env colour tree r c heap context hexecutor hfile hnames hconfig hcaptured
    refine ⟨fun hsource hshows => ?_, fun m t hm hbound hsource hshows => ?_⟩
    · exact hn.expand_text hexecutor hfile hnames hconfig hcaptured hsource hshows colour
    · exact hn.expand_name hexecutor hfile hnames hconfig hcaptured hm hbound hsource hshows colour
  · intro env tree r script hscript
    obtain ⟨d, hresolved, hlaid⟩ := exists_laysOut_of_compile hscript
    refine ⟨d, hresolved, ?_⟩
    intro earlier after before x seg pre st style hsegments hx hlast escapes moduleName context heap m
      s begun hkept hreached
    have hseg : seg ∈ d.segments := by
      obtain ⟨between, post, rfl, -⟩ := hlast
      simp [hsegments]
    have hmisuse := misuseIn?_code_of_parts hlaid.misuseIn?_eq_none seg hseg
    obtain ⟨m₁, m₀, m₂, hbefore, hpre, hst, hlookup⟩ :=
      exists_bound_of_reached hlast hmisuse hreached
    refine ⟨m₁, m₀, m₂, hbefore, hpre, hst, fun v t hvalue hshows => ?_, ?_⟩
    · exact exists_output_of_reached hlaid hsegments hx hn hkept hreached (hlookup.trans hvalue) hshows
    · rintro span line e rfl
      exact exists_evaluate_of_assign hst

/-- A block that binds a title, and behind it the title as it is. -/
theorem names_are_shared_of_title :
    let n : Text := "title".toList
    let r : Environment.ExpandRequest :=
      ⟨some ("<?py ".toList ++ n ++ " = 'v' ?>\x7b$".toList ++ n ++ ",raw\x7d".toList), none, .absent,
        .absent, none, none, none⟩
    SharedName n ∧ (Environment.standard.expand false ⟨[], []⟩ r #[] []).result = .ok (some ['v']) := by
  intro n r
  have hn : SharedName n :=
    ⟨by decide +kernel, by decide +kernel, by decide, by decide⟩
  obtain ⟨-, hexpands, -⟩ := names_are_shared hn
  obtain ⟨hbinds, -⟩ := hexpands .standard false ⟨[], []⟩ r .standard #[] [] rfl rfl (by simp [r]) rfl
    rfl
  exact ⟨hn, hbinds rfl (Registry.shows_of_apply (fun _ _ => rfl) _)⟩

/-- The ordinal indicator `ª` is a letter, and its compatibility form is `a`: code that binds it
binds another name than the one that an interpolation looks for, which here the caller has bound. -/
theorem not_names_are_shared_of_ordinal :
    let n : Text := ['\u00aa']
    let r : Environment.ExpandRequest :=
      ⟨some ("<?py ".toList ++ n ++ " = 'v' ?>\x7b$".toList ++ n ++ ",raw\x7d".toList), none, .absent,
        .absent, none, none, none⟩
    interpolation? ('$' :: n) = some (n, none) ∧ n ≠ Code.reservedName ∧ n ∉ helperNames ∧
      Code.wordToken n = .ok (.name ['a']) ∧
      (Environment.standard.expand false ⟨[], []⟩ r #[] [(n, .text ['w'])]).result =
        .ok (some ['w']) := by
  intro n r
  let title : Text := "<string>".toList
  obtain ⟨script, hscript, hrun⟩ := exists_captured_of_any ⟨[], []⟩ r.toCompile
    [⟨.code (' ' :: n ++ " = 'v' ".toList), title, 1⟩, ⟨.interpolation n (some "raw".toList), title, 1⟩]
    .standard [(n, .text ['w'])] ['w'] (by decide +kernel) (by decide +kernel) (by decide +kernel)
  have hconfig : Environment.standard.configFor r = .ok .standard := rfl
  refine ⟨by decide +kernel, by decide, by decide, by decide +kernel, ?_⟩
  rw [Environment.expand_of_compiled hconfig hscript]
  exact hrun false ⟨[], []⟩

end Stencil
