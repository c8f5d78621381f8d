import Stencil.Proofs.Run.Place
import Stencil.Proofs.Script.Plain

/-!
# Values are inert

A template of text and interpolations writes its text and the escaped values of its variables, and
that is all it does. What stands in a value is never read as a template, no file is included for it,
nothing in it is run, and no other variable has a part in the output.

One name is an exception. The language of the code blocks has a constant `__debug__`, which can be
written in an interpolation like a variable; a value of that name is never looked at.

* `values_are_inert`: what such a template is expanded to.
* `not_values_are_inert_of_debug`: a value whose name is that of the constant.
-/

namespace Stencil

open Code (Stmt)

/-! ## Variables of the caller -/

/-- The value that the caller binds to a name; of two under one name the later one counts. -/
def boundIn (context : List (Text × Value)) (name : Text) : Option Value :=
  (bindAll [] context).lookup name

theorem lookup_bindName (name other : Text) (v : Value) (names : List (Text × Value)) :
    (bindName name v names).lookup other = if other = name then some v else names.lookup other := by
  split
  · rename_i h
    rw [h, lookup_bindName_self]
  · rename_i h
    exact lookup_bindName_of_ne h v names

theorem lookup_bindAll (names more : List (Text × Value)) (name : Text) :
    (bindAll names more).lookup name = (boundIn more name).or (names.lookup name) := by
  induction more generalizing names with
  | nil => rfl
  | cons entry more ih =>
    have hcons (names : List (Text × Value)) : bindAll names (entry :: more) =
        bindAll (bindName entry.1 entry.2 names) more := rfl
    rw [boundIn, hcons, hcons, ih, ih (bindName _ _ []), lookup_bindName, lookup_bindName,
      Option.or_assoc]
    split
    · rfl
    · rfl

theorem boundIn_eq_none {context : List (Text × Value)} {name : Text}
    (h : name ∉ context.map Prod.fst) : boundIn context name = none := by
  induction context with
  | nil => rfl
  | cons entry context ih =>
    obtain ⟨hne, hmem⟩ : name ≠ entry.1 ∧ name ∉ context.map Prod.fst := by simpa using h
    have hcons : boundIn (entry :: context) name =
        (bindAll (bindName entry.1 entry.2 []) context).lookup name := rfl
    rw [hcons, lookup_bindAll, ih hmem, lookup_bindName_of_ne hne]
    rfl

/-- The names of the helpers, under which no value of the caller's is found. -/
def helperNames : List Text := "_escape".toList :: outputHelpers.map Prod.fst

/-- Under all other names code finds at first what the caller has bound, and else what every run
has. -/
theorem lookup_start {name : Text} (hname : name ∉ helperNames) (moduleName : Text)
    (context : List (Text × Value)) (heap : Heap) :
    (Machine.start moduleName context heap).globals.lookup name =
      (boundIn context name).or ((ownNames moduleName).lookup name) := by
  obtain ⟨hescape, hhelpers⟩ : name ≠ "_escape".toList ∧ name ∉ outputHelpers.map Prod.fst := by
    rwa [helperNames, List.mem_cons, not_or] at hname
  rw [Machine.start, lookup_bindAll, boundIn_eq_none hhelpers, Option.none_or, newNamespace,
    lookup_bindName_of_ne hescape, lookup_bindAll]

/-! ## Texts of values -/

/-- Escaping a value in a style gives a text, and leaves all but the log alone. -/
def Registry.Shows (escapes : Registry) (heap : Heap) (style : Option Text) (v : Value)
    (t : Text) : Prop :=
  ∀ m : Machine, m.heap = heap →
    ∃ log, escapeIn ⟨.open, escapes, roundLimit⟩ style v m = .done (.text t) { m with log := log }

/-- A value is shown as the text that its style makes of it, if no code is asked for a text. -/
theorem Registry.shows_of_apply {escapes : Registry} {style : Option Text} {v : Value} {t : Text}
    (h : ∀ (str : Value → Action Text) (fail : Thrown → Action Value),
      (escapes.resolve style).apply str fail v = pure (.text t)) (heap : Heap) :
    escapes.Shows heap style v t := by
  intro m _
  refine ⟨(escapes.resolveLog style).reverse ++ m.log, ?_⟩
  rw [escapeIn, h]
  rfl

/-! ## Segments -/

/-- The second state is the first with a text written, and perhaps with records in the log. -/
structure Machine.Wrote (m : Machine) (t : Text) (m' : Machine) : Prop where
  globals_eq : m'.globals = m.globals
  heap_eq : m'.heap = m.heap
  output_eq : m'.output = m.output ++ t

theorem Machine.Wrote.trans {m m' m'' : Machine} {t u : Text} (h : m.Wrote t m')
    (h' : m'.Wrote u m'') : m.Wrote (t ++ u) m'' :=
  ⟨h'.globals_eq.trans h.globals_eq, h'.heap_eq.trans h.heap_eq, by
    rw [h'.output_eq, h.output_eq, List.append_assoc]⟩

/-- Writing a text to an outlet that takes every text. -/
theorem exists_write_eq_done (line : Nat) (t : Text) (m : Machine) :
    ∃ v m', Action.write .open line t m = .done v m' ∧ m.Wrote t m' := by
  refine ⟨.int t.length, { m with written := t :: m.written }, rfl, rfl, rfl, ?_⟩
  simp [Machine.output]

/-- What stands in the output for a segment, where `shown` gives the texts of variables. -/
def Body.shownBy (shown : Text → Option Text → Text) : Body → Text
  | .literal t => t
  | .interpolation name style => shown name style
  | .code _ | .directive _ => []

/-- If this is an interpolation, code finds its variable, and `shown` gives the text of its
value. -/
def Body.FindsValue (escapes : Registry) (shown : Text → Option Text → Text)
    (names : List (Text × Value)) (heap : Heap) (b : Body) : Prop :=
  ∀ name style, b = .interpolation name style → name ≠ Code.reservedName ∧
    ∃ v, names.lookup name = some v ∧ escapes.Shows heap style v (shown name style)

/-- If this is an interpolation, its variable is one that the caller has bound, under a name that is
neither that of a helper nor that of the constant, and `shown` gives the text of the value. -/
def Body.ShowsBound (escapes : Registry) (shown : Text → Option Text → Text)
    (context : List (Text × Value)) (heap : Heap) (b : Body) : Prop :=
  ∀ name style, b = .interpolation name style → name ∉ helperNames ∧ name ≠ Code.reservedName ∧
    ∃ v, boundIn context name = some v ∧ escapes.Shows heap style v (shown name style)

theorem Body.ShowsBound.findsValue {escapes : Registry} {shown : Text → Option Text → Text}
    {context : List (Text × Value)} {heap : Heap} {b : Body}
    (h : b.ShowsBound escapes shown context heap) (moduleName : Text) :
    b.FindsValue escapes shown (Machine.start moduleName context heap).globals heap := by
  intro name style hbody
  obtain ⟨hhelper, hreserved, v, hbound, hshows⟩ := h name style hbody
  refine ⟨hreserved, v, ?_, hshows⟩
  rw [lookup_start hhelper, hbound, Option.some_or]

namespace Segment

/-- A segment that is text or an interpolation writes its text. -/
theorem Plain.exists_interpret {seg : Segment} (h : seg.Plain) {escapes : Registry}
    {shown : Text → Option Text → Text} {m : Machine}
    (hfinds : seg.body.FindsValue escapes shown m.globals m.heap) :
    ∃ m', seg.interpret ⟨.open, escapes, roundLimit⟩ m = .done () m' ∧
      m.Wrote (seg.body.shownBy shown) m' := by
  unfold interpret
  obtain ⟨t, hbody⟩ | ⟨name, style, hbody, -⟩ := h.body_eq
  · rw [hbody]
    cases t with
    | nil => exact ⟨m, rfl, rfl, rfl, (List.append_nil _).symm⟩
    | cons c t =>
      obtain ⟨v, m', hwrite, hwrote⟩ := exists_write_eq_done 0 (c :: t) m
      exact ⟨m', Action.bind_of_done hwrite, hwrote⟩
  · rw [hbody]
    obtain ⟨hname, v, hlookup, hshows⟩ := hfinds name style hbody
    have hvalue : Scope.top.lookup m name = .ok v := by
      rw [Scope.lookup, if_neg hname]
      show m.global name = .ok v
      rw [Machine.global, hlookup]
      rfl
    obtain ⟨log, hescape⟩ := hshows m rfl
    obtain ⟨w, m', hwrite, hwrote⟩ :=
      exists_write_eq_done 0 (shown name style) { m with log := log }
    refine ⟨m', ?_, hwrote.globals_eq, hwrote.heap_eq, hwrote.output_eq⟩
    show (Action.attempt 0 (Scope.top.lookup m name) >>= _) m = _
    rw [hvalue]
    show (escapeIn _ style v >>= _) m = _
    rw [Action.bind_of_done hescape]
    exact Action.bind_of_done hwrite

end Segment

/-- Segments that are text or interpolations write their texts one after the other. -/
theorem exists_stages_interpret {segs : List Segment} (h : ∀ seg ∈ segs, seg.Plain)
    {escapes : Registry} {shown : Text → Option Text → Text} {m : Machine}
    (hfinds : ∀ seg ∈ segs, seg.body.FindsValue escapes shown m.globals m.heap) :
    ∃ m', (Action.stages (segs.map (Segment.interpret ⟨.open, escapes, roundLimit⟩)) m).2 =
        .done () m' ∧ m.Wrote (segs.flatMap fun seg => seg.body.shownBy shown) m' := by
  induction segs generalizing m with
  | nil => exact ⟨m, rfl, rfl, rfl, (List.append_nil _).symm⟩
  | cons seg segs ih =>
    obtain ⟨m₁, hfirst, hwrote⟩ :=
      (h seg List.mem_cons_self).exists_interpret (hfinds seg List.mem_cons_self)
    have hrest : ∀ seg' ∈ segs, seg'.body.FindsValue escapes shown m₁.globals m₁.heap := by
      intro seg' hseg'
      rw [hwrote.globals_eq, hwrote.heap_eq]
      exact hfinds seg' (List.mem_cons_of_mem seg hseg')
    obtain ⟨m', hlast, hwrote'⟩ :=
      ih (fun seg' hseg' => h seg' (List.mem_cons_of_mem seg hseg')) hrest
    refine ⟨m', ?_, hwrote.trans hwrote'⟩
    rw [List.map_cons, Action.stages, hfirst]
    exact hlast

/-! ## Scripts -/

theorem Script.LaysOut.misuseIn?_eq_none {script : Script} {d : Document} (h : script.LaysOut d) :
    Stmt.misuseIn? false false (parts 1 d.segments).flatten = none := by
  have hmisuse := h.misuse_eq
  rw [Code.moduleMisuse?, Option.or_eq_none_iff, Option.or_eq_none_iff, h.body_eq] at hmisuse
  exact hmisuse.2.2

theorem Segment.Plain.code_eq_nil {seg : Segment} (h : seg.Plain) : seg.code = [] := by
  obtain ⟨t, hbody⟩ | ⟨name, style, hbody, -⟩ := h.body_eq <;> rw [code, hbody]

/-- The script of a document does what the segments do one after the other, if they find the helpers
in their places. -/
theorem agree_standard_interpret {script : Script} {d : Document} (hlaid : script.LaysOut d)
    {s : Setting} {moduleName : Text} {context : List (Text × Value)} {heap : Heap}
    (hkept : HelpersKept s d.segments (.start moduleName context heap)) :
    (Executor.standard s script ⟨newNamespace moduleName context, heap, [], []⟩).Agree
      (Action.stages (d.segments.map (Segment.interpret s))
        (.start moduleName context heap)).2 := by
  have hagree := (stages_parts_interpret s 1 (m := .start moduleName context heap) rfl hkept).2
  rwa [standard_eq_runPart, hlaid.body_eq, runPart_flatten s hlaid.misuseIn?_eq_none]

/-- The script is done if the segments are, and has written what they write. -/
theorem exists_standard_of_stages {script : Script} {d : Document} (hlaid : script.LaysOut d)
    {s : Setting} {moduleName : Text} {context : List (Text × Value)} {heap : Heap}
    (hkept : HelpersKept s d.segments (.start moduleName context heap)) {m' : Machine}
    (hdone : (Action.stages (d.segments.map (Segment.interpret s))
      (.start moduleName context heap)).2 = .done () m') :
    ∃ m, Executor.standard s script ⟨newNamespace moduleName context, heap, [], []⟩ = .done () m ∧
      m.output = m'.output := by
  have hagree := agree_standard_interpret hlaid hkept
  rw [hdone] at hagree
  generalize Executor.standard s script ⟨newNamespace moduleName context, heap, [], []⟩ = o
    at hagree ⊢
  cases hagree with
  | done a h =>
    refine ⟨_, rfl, ?_⟩
    rw [Machine.output, Machine.output, h.written_eq]

/-- The script of a plain document is done when the texts of its segments are written. -/
theorem exists_standard_eq_done {script : Script} {d : Document} (hlaid : script.LaysOut d)
    (hplain : d.Plain) {escapes : Registry} {shown : Text → Option Text → Text} {moduleName : Text}
    {context : List (Text × Value)} {heap : Heap}
    (hfinds : ∀ seg ∈ d.segments, seg.body.FindsValue escapes shown
      (Machine.start moduleName context heap).globals heap) :
    ∃ m, Executor.standard ⟨.open, escapes, roundLimit⟩ script
        ⟨newNamespace moduleName context, heap, [], []⟩ = .done () m ∧
      m.output = d.segments.flatMap fun seg => seg.body.shownBy shown := by
  let s : Setting := ⟨.open, escapes, roundLimit⟩
  let begun := Machine.start moduleName context heap
  obtain ⟨m', hdirect, hwrote⟩ := exists_stages_interpret hplain (m := begun) hfinds
  have hkept : HelpersKept s d.segments begun := by
    refine helpersKept_of_not_mem_boundAll s (lookup_write_start ..) (lookup_escape_start ..) ?_
    intro seg hseg
    rw [(hplain seg hseg).code_eq_nil]
    exact ⟨List.not_mem_nil, List.not_mem_nil⟩
  obtain ⟨m, hdone, houtput⟩ := exists_standard_of_stages hlaid hkept hdirect
  exact ⟨m, hdone, houtput.trans (hwrote.output_eq.trans (List.nil_append _))⟩

/-! ## Expansions -/

/-- A template that compiles is run. -/
theorem Environment.expand_of_compiled {env : Environment} {tree : FileTree}
    {r : Environment.ExpandRequest} {c : Config} {script : Script}
    (hconfig : env.configFor r = .ok c)
    (hscript : (env.compile tree r.toCompile).result = .ok script) (colour : Bool) (heap : Heap)
    (context : List (Text × Value)) :
    env.expand colour tree r heap context =
      { env.run colour tree script c heap context with
        log := (env.compile tree r.toCompile).log ++
          (env.run colour tree script c heap context).log } := by
  rw [Environment.expand, hconfig]
  dsimp only
  rw [hscript]

/-- What the segments of a template show, whatever name the template goes by. -/
theorem flatMap_body_segmentsFrom (shownBy : Body → Text) (filename : Text) (line : Nat)
    (ps : List Piece) :
    (segmentsFrom filename line ps).flatMap (fun seg => shownBy seg.body) =
      ps.flatMap fun p => shownBy p.body := by
  have hbodies := congrArg (List.flatMap shownBy) (map_body_segmentsFrom filename line ps)
  rwa [List.flatMap_map, List.flatMap_map] at hbodies

/-- **Values are inert.** A template that is scanned into text and interpolations alone compiles, in
every environment and under every name that can be one, and nothing is included on the way. If all
its variables are bound by the caller, under names that are not those of helpers and not
`__debug__`, and escaping shows each value as a text, it is expanded to its text with the texts of
the values in place of the interpolations, whatever they contain; nothing is reported and no file is
touched. What else the caller binds makes no difference. -/
theorem values_are_inert {t name : Text} {d : Document} (hscan : scanTemplate t name = .ok d)
    (houtput : ∀ seg ∈ d.segments, seg.body.IsOutput) :
    (∀ (env : Environment) (tree : FileTree) (r : CompileRequest), r.source = some t →
      r.sourceFile = none → (∀ name ∈ r.reportedName, '\x00' ∉ name) →
      ∃ script, (env.compile tree r).result = .ok script ∧ script.warnings = [] ∧
        script.sources.map Prod.snd = [t]) ∧
    ∀ (env : Environment) (colour : Bool) (tree : FileTree) (r : Environment.ExpandRequest)
      (c : Config) (heap : Heap) (context : List (Text × Value))
      (shown : Text → Option Text → Text),
      env.executor = Executor.standard → r.source = some t → r.sourceFile = none →
      (∀ name ∈ r.reportedFilename, '\x00' ∉ name) → env.configFor r = .ok c →
      c.output = .captured →
      (∀ seg ∈ d.segments, seg.body.ShowsBound env.escapes shown context heap) →
      let report := env.expand colour tree r heap context
      let text := d.segments.flatMap fun seg => seg.body.shownBy shown
      report.result = .ok (some text) ∧ report.written = text ∧ report.delivered = [] ∧
        report.told = [] ∧ report.tree = tree := by
  obtain ⟨ps, hps, rfl⟩ := exists_pieces_of_scanTemplate hscan
  have hpieces := forall_body_segmentsFrom_iff.mp houtput
  -- the template is scanned again, under the name that the request gives it
  let document (title : Text) : Document := ⟨title, segmentsFrom title 1 ps, t⟩
  have hplain (title : Text) : (document title).Plain := plain_of_pieces hps hpieces title
  have hcompile (env : Environment) (tree : FileTree) (r : CompileRequest)
      (hsource : r.source = some t) (hfile : r.sourceFile = none)
      (hnames : ∀ name ∈ r.reportedName, '\x00' ∉ name) :=
    exists_compile_of_plain
      (Environment.readSource_of_source hsource hfile : env.readSource tree r = _)
      (scanTemplate_of_pieces hps _) (hplain _) (Environment.not_nul_reportedOr hnames)
  refine ⟨fun env tree r hsource hfile hnames => ?_, ?_⟩
  · obtain ⟨script, hscript, -, hwarnings, hsources⟩ := hcompile env tree r hsource hfile hnames
    exact ⟨script, hscript, hwarnings, by rw [hsources]; rfl⟩
  · intro env colour tree r c heap context shown hexecutor hsource hfile hnames hconfig hcaptured
      hvalues report text
    let title := Environment.reportedOr r.reportedFilename "<string>".toList
    obtain ⟨script, hscript, hlaid, -⟩ := hcompile env tree r.toCompile hsource hfile hnames
    have hbound := forall_body_segmentsFrom_iff.mp hvalues
    have hfinds : ∀ seg ∈ (document title).segments, seg.body.FindsValue env.escapes shown
        (Machine.start c.moduleName context heap).globals heap :=
      forall_body_segmentsFrom_iff.mpr fun p hp => (hbound p hp).findsValue c.moduleName
    obtain ⟨m, hdone, houtputs⟩ := exists_standard_eq_done hlaid (hplain title) hfinds
    have htext : m.output = text := by
      rw [houtputs, flatMap_body_segmentsFrom, ← flatMap_body_segmentsFrom _ name 1]
    have hrun := run_captured_of_done hcaptured hdone colour tree
    have hreport : report = _ := Environment.expand_of_compiled hconfig hscript colour heap context
    rw [hreport, Environment.run, hexecutor, hrun, htext]
    exact ⟨rfl, rfl, rfl, rfl, rfl⟩

/-- Values that look like parts of templates, and a variable that has no text and is not used. -/
theorem values_are_inert_of_markup :
    let r : Environment.ExpandRequest := ⟨some "a\x7b$x\x7d\x7b$y,raw\x7db".toList, none, .absent,
      .absent, none, none, none⟩
    let context : List (Text × Value) := [("x".toList, .text "<?include x?>".toList),
      ("y".toList, .text "\x7b$x\x7d<?py 1/0 ?>".toList),
      ("z".toList, .foreign "Obj".toList (.error "no text".toList))]
    (Environment.standard.expand false ⟨[], []⟩ r #[] context).result =
      .ok (some "a&#60;?include x?&#62;\x7b$x\x7d<?py 1/0 ?>b".toList) := by
  intro r context
  let name : Text := "<string>".toList
  let t : Text := "a\x7b$x\x7d\x7b$y,raw\x7db".toList
  let d : Document := ⟨name, [⟨.literal "a".toList, name, 1⟩,
    ⟨.interpolation "x".toList none, name, 1⟩,
    ⟨.interpolation "y".toList (some "raw".toList), name, 1⟩, ⟨.literal "b".toList, name, 1⟩], t⟩
  let shown (x : Text) (_ : Option Text) : Text :=
    if x = "x".toList then "&#60;?include x?&#62;".toList else "\x7b$x\x7d<?py 1/0 ?>".toList
  have hscan : scanTemplate t name = .ok d := eq_ok_of_toOption (by decide +kernel)
  have houtput : ∀ seg ∈ d.segments, seg.body.IsOutput := by
    simp [d, Body.IsOutput]
  have hshown : ∀ seg ∈ d.segments,
      seg.body.ShowsBound .standard shown context #[] := by
    intro seg hseg x style hbody
    have hcases : (x = "x".toList ∧ style = none) ∨
        (x = "y".toList ∧ style = some "raw".toList) := by
      simp only [d, List.mem_cons, List.not_mem_nil, or_false] at hseg
      obtain rfl | rfl | rfl | rfl := hseg <;> cases hbody
      · exact .inl ⟨rfl, rfl⟩
      · exact .inr ⟨rfl, rfl⟩
    obtain ⟨rfl, rfl⟩ | ⟨rfl, rfl⟩ := hcases
    · exact ⟨by decide, by decide, _, rfl, Registry.shows_of_apply (fun _ _ => rfl) _⟩
    · exact ⟨by decide, by decide, _, rfl, Registry.shows_of_apply (fun _ _ => rfl) _⟩
  obtain ⟨-, hexpand⟩ := values_are_inert hscan houtput
  exact (hexpand .standard false ⟨[], []⟩ r .standard #[] context shown rfl rfl rfl (by simp [r])
    rfl rfl hshown).1

/-- The value of a variable that is called `__debug__` is not what is written for it. -/
theorem not_values_are_inert_of_debug :
    let name : Text := "__debug__".toList
    let t : Text := "\x7b$__debug__\x7d".toList
    let r : Environment.ExpandRequest := ⟨some t, none, .absent, .absent, none, none, none⟩
    let context : List (Text × Value) := [(name, .text "x".toList)]
    (∃ d, scanTemplate t "<string>".toList = .ok d ∧
      d.segments.map Segment.body = [.interpolation name none]) ∧
    name ∉ helperNames ∧ boundIn context name = some (.text "x".toList) ∧
    Registry.standard.Shows #[] none (.text "x".toList) "x".toList ∧
    (Environment.standard.expand false ⟨[], []⟩ r #[] context).result =
      .ok (some "True".toList) := by
  intro name t r context
  let d : Document := ⟨"<string>".toList, [⟨.interpolation name none, "<string>".toList, 1⟩], t⟩
  have hscan : scanTemplate t "<string>".toList = .ok d := eq_ok_of_toOption (by decide +kernel)
  refine ⟨⟨d, hscan, rfl⟩, by decide, rfl, Registry.shows_of_apply (fun _ _ => rfl) _, ?_⟩
  obtain ⟨script, hscript, hrun⟩ := exists_captured_of_any ⟨[], []⟩ r.toCompile
    d.segments .standard context "True".toList (by decide +kernel) (by decide +kernel)
    (by decide +kernel)
  have hconfig : Environment.standard.configFor r = .ok .standard := rfl
  rw [Environment.expand_of_compiled hconfig hscript]
  exact hrun false ⟨[], []⟩

end Stencil
