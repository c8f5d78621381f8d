import Stencil.Log
import Stencil.Text.Quoted
import Stencil.Value.Basic

/-!
# Registries of styles

A registry gives names to escaping styles and says which one stands in for names it does not have.
That default is always registered: it is part of the type, so looking up a style never fails.
Registries are values; adding a style to one makes another one.
-/

namespace Stencil

/-- Named styles in order of registration, and the name of the one that stands in for others. -/
structure Registry where
  styles : List (Text × Style)
  default : Text
  registered : (styles.lookup default).isSome

/-- Puts a style under a name, in place of the one that has it or at the end. -/
def putStyle (name : Text) (style : Style) : List (Text × Style) → List (Text × Style)
  | [] => [(name, style)]
  | entry :: rest =>
    if name = entry.1 then (name, style) :: rest else entry :: putStyle name style rest

theorem lookup_putStyle_self (name : Text) (style : Style) (styles : List (Text × Style)) :
    (putStyle name style styles).lookup name = some style := by
  induction styles with
  | nil => simp [putStyle]
  | cons entry rest ih =>
    by_cases h : name = entry.1
    · simp [putStyle, h]
    · have : (name == entry.1) = false := by simpa using h
      rw [putStyle, if_neg h, List.lookup_cons, this]
      exact ih

theorem lookup_putStyle_of_ne {name other : Text} (h : other ≠ name) (style : Style)
    (styles : List (Text × Style)) :
    (putStyle name style styles).lookup other = styles.lookup other := by
  induction styles with
  | nil =>
    have : (other == name) = false := by simpa using h
    simp [putStyle, List.lookup_cons, this]
  | cons entry rest ih =>
    by_cases hn : name = entry.1
    · have h1 : (other == name) = false := by simpa using h
      have h2 : (other == entry.1) = false := by simpa [← hn] using h
      rw [putStyle, if_pos hn]
      rw [List.lookup_cons, List.lookup_cons, h1, h2]
    · rw [putStyle, if_neg hn]
      rw [List.lookup_cons, List.lookup_cons, ih]

/-- Styles by name; of two styles under one name the later one counts. -/
def stylesOf (entries : List (Text × Style)) : List (Text × Style) :=
  entries.foldl (fun styles entry => putStyle entry.1 entry.2 styles) []

/-- The styles that every registry has unless it is given others. -/
def builtinStyles : List (Text × Style) :=
  [Style.xml, .uri, .raw].map fun style => (style.name, style)

namespace Registry

/-- A registry of the given styles, if the default is one of them. -/
def new? (entries : List (Text × Style)) (default : Text) : Option Registry :=
  let styles := stylesOf entries
  if h : (styles.lookup default).isSome then some ⟨styles, default, h⟩ else none

/-- The registry of the built-in styles, with `xml` for names it does not have. -/
def standard : Registry := ⟨builtinStyles, "xml".toList, by decide⟩

/-- What is said of a default that is not registered. -/
def unregistered (name : Text) : Thrown :=
  .value ("Default escape style '".toList ++ name ++ "' is not registered".toList)

/-- The registry with a style more, or with another style under a name. -/
def withStyle (r : Registry) (name : Text) (style : Style) : Registry where
  styles := putStyle name style r.styles
  default := r.default
  registered := by
    by_cases h : r.default = name
    · rw [h, lookup_putStyle_self]; rfl
    · rw [lookup_putStyle_of_ne h]; exact r.registered

/-- The registry with another default, if that is registered. -/
def withDefault? (r : Registry) (name : Text) : Option Registry :=
  if h : (r.styles.lookup name).isSome then some ⟨r.styles, name, h⟩ else none

/-- The style under a name. -/
def get? (r : Registry) (name : Text) : Option Style := r.styles.lookup name

/-- The style that stands in for names without one. -/
def defaultStyle (r : Registry) : Style := (r.styles.lookup r.default).get r.registered

/-- The style for a name, or the default. -/
def resolve (r : Registry) (name : Option Text) : Style :=
  (name.bind r.get?).getD r.defaultStyle

/-- What is logged when the default stands in for a name. -/
def fallbackRecord (r : Registry) (written : Text) : LogRecord where
  level := .debug
  part := .registry
  message := "Unknown escape style ".toList ++ written ++ ", using ".toList ++
    Text.quoted r.default

/-- The records that looking up a name leaves. -/
def resolveLog (r : Registry) (name : Option Text) : List LogRecord :=
  match name with
  | none => []
  | some name => if (r.get? name).isSome then [] else [r.fallbackRecord (Text.quoted name)]

/-- The names in order of registration. -/
def names (r : Registry) : List Text := r.styles.map Prod.fst

/-- The names in alphabetical order, in their written form. -/
def sortedNames (r : Registry) : Text :=
  '[' :: Text.join ", ".toList ((Text.sorted r.names).map Text.quoted) ++ [']']

/-- The written form of a registry. -/
def written (r : Registry) : Text :=
  "EscapeRegistry(".toList ++ r.sortedNames ++ ", default=".toList ++ Text.quoted r.default ++
    ")".toList

end Registry

end Stencil
