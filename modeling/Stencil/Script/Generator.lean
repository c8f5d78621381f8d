import Stencil.Script.Generate

/-!
# Generators

A generator makes one script after the other. It writes into a *sheet*, the statements of a script
and the texts that the script keeps, and it hands the sheet itself over to the script: what is
written into a sheet later shows in every script that has it. The markers and the warnings of a
script are its own.

A generator takes a new sheet for every document. One that fails stays as it was at the failure,
with a sheet that is half filled.
-/

namespace Stencil

/-- What a generator and a script have in common. -/
structure Sheet where
  body : List Code.Stmt
  sources : List (Text × Text)
  deriving Inhabited

/-- A generator: all sheets that it has taken, the one it writes into, and the markers and the next
line of the script in the making. -/
structure Generator where
  sheets : Array Sheet
  sheet : Nat
  markers : List Marker
  next : Nat

/-- A script as a generator hands it out: its statements and texts are those of a sheet. -/
structure HandedScript where
  name : Text
  sheet : Nat
  markers : List Marker
  warnings : List IncludeWarning

/-- What a generator is asked for: the script of a document. -/
structure GenerateCall where
  document : Document
  sources : List (Text × Text)
  warnings : List IncludeWarning

namespace Generator

/-- A generator that has not made a script yet. -/
def fresh : Generator := ⟨#[⟨[], []⟩], 0, [], 1⟩

/-- What a sheet holds. -/
def sheetAt (g : Generator) (k : Nat) : Sheet := g.sheets[k]?.getD default

/-- The script in the making. -/
def draft (g : Generator) : Draft where
  body := (g.sheetAt g.sheet).body
  markers := g.markers
  next := g.next
  sources := (g.sheetAt g.sheet).sources

/-- Takes a new sheet for a script that keeps these texts. -/
def begin (g : Generator) (sources : List (Text × Text)) : Generator where
  sheets := g.sheets.push ⟨[], sources⟩
  sheet := g.sheets.size
  markers := []
  next := 1

/-- Brings the script in the making up to date, in the sheet that it is written into. -/
def write (g : Generator) (d : Draft) : Generator where
  sheets := g.sheets.setIfInBounds g.sheet ⟨d.body, d.sources⟩
  sheet := g.sheet
  markers := d.markers
  next := d.next

/-- Writes segments, up to the first that cannot be. -/
def addAll (g : Generator) : List Segment → Except GenerateError Unit × Generator
  | [] => (.ok (), g)
  | s :: ss =>
    match g.draft.add s with
    | .error e => (.error e, g)
    | .ok d => (g.write d).addAll ss

/-- The script that has been made, if nothing in it is misused. -/
def finish (g : Generator) (d : Document) (warnings : List IncludeWarning) :
    Except GenerateError HandedScript :=
  if d.name.contains '\x00' then .error .nulInName
  else
    match Code.moduleMisuse? g.draft.body with
    | some misuse => .error (g.draft.misuseError misuse)
    | none => .ok ⟨d.name, g.sheet, g.markers, warnings⟩

/-- Makes a script, from whatever the generator was left with. -/
def generate (g : Generator) (c : GenerateCall) : Except GenerateError HandedScript × Generator :=
  match (g.begin (keptSources c.document c.sources)).addAll c.document.segments with
  | (.error e, g) => (.error e, g)
  | (.ok (), g) => (g.finish c.document c.warnings, g)

/-- Makes scripts one after the other; a call that fails does not keep the next from being made. -/
def generateAll (g : Generator) :
    List GenerateCall → List (Except GenerateError HandedScript) × Generator
  | [] => ([], g)
  | c :: cs =>
    let (made, g) := g.generate c
    let (later, g) := g.generateAll cs
    (made :: later, g)

/-- What a script says now. -/
def read (g : Generator) (h : HandedScript) : Script where
  name := h.name
  body := (g.sheetAt h.sheet).body
  markers := h.markers
  warnings := h.warnings
  sources := (g.sheetAt h.sheet).sources

/-- What a call has led to, read now. -/
def outcome (g : Generator) (made : Except GenerateError HandedScript) :
    Except GenerateError Script :=
  made.map g.read

end Generator

/-- What a call leads to on a generator of its own. -/
def GenerateCall.alone (c : GenerateCall) : Except GenerateError Script :=
  let (made, g) := Generator.fresh.generate c
  g.outcome made

end Stencil
