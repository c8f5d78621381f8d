import Stencil.Registry

/-!
# Tables of styles

In memory a registry is a reference to a table of styles, with the name of the style that stands in
for others. Tables can be written into, and two registries could refer to the same one. That they do
not is up to the calls that make registries: each takes a new table and copies the styles into it,
those of a caller as well as those of another registry, and checks that the default is among them.

Nothing in the form of such a registry says that it has its default. Looking up a style therefore
may fail.
-/

namespace Stencil

/-- A registry as it lies in memory: where its table is, and the name of its default. -/
structure HeldRegistry where
  table : Nat
  default : Text
  deriving DecidableEq, Repr

/-- What a registry is asked for: another one, with a style more or with another default. -/
inductive RegistryCall where
  | withStyle (name : Text) (style : Style)
  | withDefault (name : Text)

/-- Is it something that can be called? -/
def Style.callable : Style → Bool
  | .uncallable _ _ => false
  | _ => true

/-- Is it the absent value, in the place of a style? -/
def Style.isAbsent : Style → Bool
  | .uncallable _ typeName => typeName == "NoneType".toList
  | _ => false

theorem Style.isAbsent_eq_false {style : Style} (h : style.callable = true) :
    style.isAbsent = false := by
  cases style <;> first | rfl | cases h

/-- All tables that have been made, by registries and by their callers. -/
structure StyleTables where
  tables : Array (List (Text × Style))
  deriving Inhabited

namespace StyleTables

/-- The styles in a table. -/
def read (ts : StyleTables) (k : Nat) : List (Text × Style) := ts.tables[k]?.getD []

/-- Where the next table will be. -/
def next (ts : StyleTables) : Nat := ts.tables.size

/-- Makes a table of the given styles. -/
def make (ts : StyleTables) (styles : List (Text × Style)) : StyleTables :=
  ⟨ts.tables.push styles⟩

/-- Puts a style under a name in a table. -/
def put (ts : StyleTables) (k : Nat) (name : Text) (style : Style) : StyleTables :=
  ⟨ts.tables.setIfInBounds k (putStyle name style (ts.read k))⟩

/-- The styles that a registry is made of: those in a table, or the built-in ones. -/
def source (ts : StyleTables) (given : Option Nat) : List (Text × Style) :=
  given.elim builtinStyles ts.read

/-- Makes a registry. Its table is made before the default is looked for. -/
def construct (ts : StyleTables) (given : Option Nat) (default : Text) :
    Except Thrown HeldRegistry × StyleTables :=
  let own := ts.next
  let ts := ts.make (ts.source given)
  if ((ts.read own).lookup default).isSome then (.ok ⟨own, default⟩, ts)
  else (.error (Registry.unregistered default), ts)

/-- Makes the registry that another one is asked for. -/
def answer (ts : StyleTables) (r : HeldRegistry) :
    RegistryCall → Except Thrown HeldRegistry × StyleTables
  | .withStyle name style =>
    let copy := ts.next
    let ts := (ts.make (ts.read r.table)).put copy name style
    ts.construct (some copy) r.default
  | .withDefault name => ts.construct (some r.table) name

/-- The names of a registry. -/
def names (ts : StyleTables) (r : HeldRegistry) : List Text := (ts.read r.table).map Prod.fst

/-- The style for a name, or the default; none if the default is not there. -/
def resolve? (ts : StyleTables) (r : HeldRegistry) (name : Option Text) : Option Style :=
  let styles := ts.read r.table
  ((name.bind fun name => styles.lookup name).filter (! ·.isAbsent)).or (styles.lookup r.default)

/-- The registry as a value, if it has its default. -/
def value? (ts : StyleTables) (r : HeldRegistry) : Option Registry :=
  let styles := ts.read r.table
  if h : (styles.lookup r.default).isSome then some ⟨styles, r.default, h⟩ else none

end StyleTables

/-- A registry that is asked for the next one again and again, and the tables there are. -/
structure Lineage where
  tables : StyleTables
  held : HeldRegistry

namespace Lineage

/-- Goes on with the registry that the last one was asked for. After a call that fails it goes on
with the same one. -/
def call (l : Lineage) (c : RegistryCall) : Lineage :=
  match l.tables.answer l.held c with
  | (.ok r, ts) => ⟨ts, r⟩
  | (.error _, ts) => ⟨ts, l.held⟩

/-- Makes calls one after the other. -/
def after (l : Lineage) (calls : List RegistryCall) : Lineage := calls.foldl call l

/-- The style for a name, in the registry that there is now. -/
def resolve? (l : Lineage) (name : Option Text) : Option Style := l.tables.resolve? l.held name

/-- The registry that there is now, as a value. -/
def value? (l : Lineage) : Option Registry := l.tables.value? l.held

end Lineage

end Stencil
