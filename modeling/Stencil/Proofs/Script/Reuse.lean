import Stencil.Proofs.Script.Generable
import Stencil.Script.Generator

/-!
# Using a generator again

Scripts share sheets with the generator that made them, and a call that fails leaves the generator
in the middle of a script. Neither shows: a call begins with a sheet that no script has, writes into
no other, and reads nothing else that was left behind.

* `Generator.Extends`: all sheets that there were are as they were.
* `Generator.outcome_generate`: what one call leads to, on any generator.
* `generator_is_reusable`: calls one after the other, some of which fail.
-/

namespace Stencil

namespace Generator

variable {g g₁ g₂ g₃ : Generator}

/-! ## Old sheets -/

/-- The later generator has all sheets of the earlier one, with what they held. -/
structure Extends (g₁ g₂ : Generator) : Prop where
  size_le : g₁.sheets.size ≤ g₂.sheets.size
  sheetAt_eq : ∀ k < g₁.sheets.size, g₂.sheetAt k = g₁.sheetAt k

theorem Extends.refl (g : Generator) : g.Extends g := ⟨Nat.le_refl _, fun _ _ => rfl⟩

theorem Extends.trans (h₁ : g₁.Extends g₂) (h₂ : g₂.Extends g₃) : g₁.Extends g₃ where
  size_le := Nat.le_trans h₁.size_le h₂.size_le
  sheetAt_eq k hk := by
    rw [h₂.sheetAt_eq k (Nat.lt_of_lt_of_le hk h₁.size_le), h₁.sheetAt_eq k hk]

/-- A script on an old sheet says what it said. -/
theorem Extends.read_eq (h : g₁.Extends g₂) {script : HandedScript}
    (hsheet : script.sheet < g₁.sheets.size) : g₂.read script = g₁.read script := by
  simp only [read, h.sheetAt_eq _ hsheet]

/-- The script that was handed out, if any, is on a sheet of this generator. -/
def Holds (g : Generator) (made : Except GenerateError HandedScript) : Prop :=
  ∀ script, made = .ok script → script.sheet < g.sheets.size

theorem Holds.mono {made : Except GenerateError HandedScript} (h : g₁.Holds made)
    (hext : g₁.Extends g₂) : g₂.Holds made := fun script hmade =>
  Nat.lt_of_lt_of_le (h script hmade) hext.size_le

theorem Extends.outcome_eq (h : g₁.Extends g₂) {made : Except GenerateError HandedScript}
    (hmade : g₁.Holds made) : g₂.outcome made = g₁.outcome made := by
  cases made with
  | error e => rfl
  | ok script => exact congrArg Except.ok (h.read_eq (hmade script rfl))

/-! ## Steps -/

/-- Nothing that was left behind is in a new script. -/
theorem draft_begin (g : Generator) (sources : List (Text × Text)) :
    (g.begin sources).draft = .empty sources := by
  simp [draft, begin, sheetAt, Draft.empty]

theorem extends_begin (g : Generator) (sources : List (Text × Text)) :
    g.Extends (g.begin sources) where
  size_le := by simp [begin]
  sheetAt_eq k hk := by
    have hne : k ≠ g.sheets.size := Nat.ne_of_lt hk
    simp [begin, sheetAt, Array.getElem?_push, hne]

/-- A generator writes on a sheet of its own. -/
def Ready (g : Generator) : Prop := g.sheet < g.sheets.size

theorem ready_begin (g : Generator) (sources : List (Text × Text)) : (g.begin sources).Ready := by
  simp [Ready, begin]

theorem Ready.write (h : g.Ready) (d : Draft) : (g.write d).Ready := by
  simpa [Ready, Generator.write] using h

theorem Ready.draft_write (h : g.Ready) (d : Draft) : (g.write d).draft = d := by
  have hsheet : (g.write d).sheetAt g.sheet = ⟨d.body, d.sources⟩ := by
    simp [sheetAt, Generator.write, Array.getElem?_setIfInBounds_self_of_lt h]
  show Draft.mk ((g.write d).sheetAt g.sheet).body d.markers d.next
    ((g.write d).sheetAt g.sheet).sources = d
  rw [hsheet]

theorem sheetAt_write_of_ne (g : Generator) (d : Draft) {k : Nat} (hk : k ≠ g.sheet) :
    (g.write d).sheetAt k = g.sheetAt k := by
  simp [sheetAt, write, Array.getElem?_setIfInBounds_ne (Ne.symm hk)]

/-- How a generator has come from another by writing: on its sheet, which is the same. -/
structure Wrote (g₁ g₂ : Generator) : Prop where
  sheet_eq : g₂.sheet = g₁.sheet
  size_eq : g₂.sheets.size = g₁.sheets.size
  sheetAt_eq : ∀ k ≠ g₁.sheet, g₂.sheetAt k = g₁.sheetAt k

theorem Wrote.refl (g : Generator) : g.Wrote g := ⟨rfl, rfl, fun _ _ => rfl⟩

theorem Wrote.trans (h₁ : g₁.Wrote g₂) (h₂ : g₂.Wrote g₃) : g₁.Wrote g₃ where
  sheet_eq := h₂.sheet_eq.trans h₁.sheet_eq
  size_eq := h₂.size_eq.trans h₁.size_eq
  sheetAt_eq k hk := by rw [h₂.sheetAt_eq k (h₁.sheet_eq ▸ hk), h₁.sheetAt_eq k hk]

theorem Wrote.ready (h : g₁.Wrote g₂) (hready : g₁.Ready) : g₂.Ready := by
  rw [Ready, h.sheet_eq, h.size_eq]
  exact hready

theorem wrote_write (g : Generator) (d : Draft) : g.Wrote (g.write d) where
  sheet_eq := rfl
  size_eq := by simp [write]
  sheetAt_eq _ hk := sheetAt_write_of_ne g d hk

/-! ## Segments -/

/-- Segments are written on the one sheet, also when one of them cannot be. -/
theorem wrote_addAll (g : Generator) (ss : List Segment) : g.Wrote (g.addAll ss).2 := by
  induction ss generalizing g with
  | nil => exact .refl g
  | cons s ss ih =>
    simp only [addAll]
    cases g.draft.add s with
    | error e => exact .refl g
    | ok d => exact (wrote_write g d).trans (ih (g.write d))

/-- The script in the making after segments, and the first error, are those of a draft. -/
theorem Ready.addAll_eq (h : g.Ready) (ss : List Segment) :
    match ss.foldlM Draft.add g.draft with
    | .ok d => (g.addAll ss).1 = .ok () ∧ (g.addAll ss).2.draft = d
    | .error e => (g.addAll ss).1 = .error e := by
  induction ss generalizing g with
  | nil => exact ⟨rfl, rfl⟩
  | cons s ss ih =>
    rw [List.foldlM_cons]
    simp only [addAll]
    cases g.draft.add s with
    | error e => rfl
    | ok d =>
      have hrest := ih (h.write d)
      rwa [h.draft_write] at hrest

/-! ## Calls -/

/-- What is made of a finished script in the making. -/
theorem outcome_finish (g : Generator) (d : Document) (warnings : List IncludeWarning) :
    g.outcome (g.finish d warnings) = g.draft.script d.name warnings := by
  unfold outcome finish Draft.script
  split
  · rfl
  · cases Code.moduleMisuse? g.draft.body with
    | none => rfl
    | some misuse => rfl

theorem Ready.holds_finish (h : g.Ready) (d : Document) (warnings : List IncludeWarning) :
    g.Holds (g.finish d warnings) := by
  intro script hscript
  unfold finish at hscript
  split at hscript
  · cases hscript
  · split at hscript
    · cases hscript
    · obtain rfl := Except.ok.inj hscript
      exact h

/-- **What a call leads to does not depend on what the generator was left with.** -/
theorem outcome_generate (g : Generator) (c : GenerateCall) :
    (g.generate c).2.outcome (g.generate c).1 =
      Stencil.generate c.document c.sources c.warnings := by
  have hrun := (ready_begin g (keptSources c.document c.sources)).addAll_eq c.document.segments
  rw [draft_begin] at hrun
  rw [generate_eq]
  unfold generate
  cases hfold : c.document.segments.foldlM Draft.add
      (.empty (keptSources c.document c.sources)) with
  | error e =>
    rw [hfold] at hrun
    rw [← Prod.eta (addAll _ _), hrun]
    rfl
  | ok d =>
    rw [hfold] at hrun
    obtain ⟨hdone, hdraft⟩ := hrun
    rw [← Prod.eta (addAll _ _), hdone]
    dsimp only
    rw [outcome_finish, hdraft]
    rfl

/-- A call leaves the generator as its last segment does. -/
theorem generate_snd (g : Generator) (c : GenerateCall) :
    (g.generate c).2 =
      ((g.begin (keptSources c.document c.sources)).addAll c.document.segments).2 := by
  unfold generate
  rcases (g.begin (keptSources c.document c.sources)).addAll c.document.segments with ⟨_ | _, g'⟩
  · rfl
  · rfl

/-- A call leaves all sheets that there were as they were. -/
theorem extends_generate (g : Generator) (c : GenerateCall) : g.Extends (g.generate c).2 := by
  have hbegun := extends_begin g (keptSources c.document c.sources)
  have hwrote := wrote_addAll (g.begin (keptSources c.document c.sources)) c.document.segments
  rw [← generate_snd] at hwrote
  refine ⟨by rw [hwrote.size_eq]; exact hbegun.size_le, fun k hk => ?_⟩
  -- the call has written on the new sheet alone, which stands behind the old ones
  have hold : k ≠ (g.begin (keptSources c.document c.sources)).sheet := Nat.ne_of_lt hk
  rw [hwrote.sheetAt_eq k hold, hbegun.sheetAt_eq k hk]

/-- The script of a call is on a sheet of the generator that is left. -/
theorem holds_generate (g : Generator) (c : GenerateCall) :
    (g.generate c).2.Holds (g.generate c).1 := by
  have hready := (wrote_addAll _ c.document.segments).ready
    (ready_begin g (keptSources c.document c.sources))
  unfold generate
  generalize (g.begin (keptSources c.document c.sources)).addAll c.document.segments = r at hready
  rcases r with ⟨_ | _, g'⟩
  · intro script hscript
    cases hscript
  · exact Ready.holds_finish hready c.document c.warnings

theorem generateAll_cons (g : Generator) (c : GenerateCall) (cs : List GenerateCall) :
    g.generateAll (c :: cs) =
      ((g.generate c).1 :: ((g.generate c).2.generateAll cs).1,
        ((g.generate c).2.generateAll cs).2) := rfl

theorem extends_generateAll (g : Generator) (cs : List GenerateCall) :
    g.Extends (g.generateAll cs).2 := by
  induction cs generalizing g with
  | nil => exact .refl g
  | cons c cs ih => exact (extends_generate g c).trans (ih (g.generate c).2)

theorem holds_generateAll (g : Generator) (cs : List GenerateCall) :
    ∀ made ∈ (g.generateAll cs).1, (g.generateAll cs).2.Holds made := by
  induction cs generalizing g with
  | nil => simp [generateAll]
  | cons c cs ih =>
    intro made hmade
    rcases List.mem_cons.mp hmade with rfl | hmade
    · exact (holds_generate g c).mono (extends_generateAll _ cs)
    · exact ih (g.generate c).2 made hmade

end Generator

theorem GenerateCall.alone_eq (c : GenerateCall) :
    c.alone = generate c.document c.sources c.warnings :=
  Generator.outcome_generate .fresh c

namespace Generator

/-- Calls one after the other lead to what each of them leads to by itself. -/
theorem outcome_generateAll (g : Generator) (cs : List GenerateCall) :
    (g.generateAll cs).1.map (g.generateAll cs).2.outcome = cs.map GenerateCall.alone := by
  induction cs generalizing g with
  | nil => rfl
  | cons c cs ih =>
    -- the script of the first call is read after all the others
    have hfirst : ((g.generate c).2.generateAll cs).2.outcome (g.generate c).1 = c.alone := by
      rw [(extends_generateAll _ cs).outcome_eq (holds_generate g c), outcome_generate, c.alone_eq]
    rw [generateAll_cons, List.map_cons, hfirst, ih (g.generate c).2, List.map_cons]

end Generator

/-- **A generator can be used again.** Whatever it was left with, calls one after the other, some of
which may fail half-way, lead to what each of them leads to on a generator of its own: the same
script or the same error. What they have led to still reads the same after any further calls, and so
does every script that was there before. -/
theorem generator_is_reusable (g : Generator) (earlier later : List GenerateCall) :
    let (made₁, g₁) := g.generateAll earlier
    let (made₂, g₂) := g₁.generateAll later
    made₁.map g₁.outcome = earlier.map GenerateCall.alone ∧
      made₁.map g₂.outcome = earlier.map GenerateCall.alone ∧
      made₂.map g₂.outcome = later.map GenerateCall.alone ∧
      ∀ script : HandedScript, script.sheet < g.sheets.size → g₂.read script = g.read script := by
  have hearlier := g.extends_generateAll earlier
  have hlater := (g.generateAll earlier).2.extends_generateAll later
  have hread := g.outcome_generateAll earlier
  refine ⟨hread, ?_, Generator.outcome_generateAll _ later, fun script hsheet =>
    (hearlier.trans hlater).read_eq hsheet⟩
  rw [← hread]
  refine List.map_congr_left fun made hmade => ?_
  exact hlater.outcome_eq (g.holds_generateAll earlier made hmade)

end Stencil
