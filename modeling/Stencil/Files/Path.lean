import Stencil.Text.Basic

/-!
# Paths

A path is anchored, or not, and goes through names. Reading a path drops empty names and the name
`.`, but keeps `..`, since what that leads to depends on links. The path without anchor and names is
written `.`.
-/

namespace Stencil

/-- Where a path starts. Exactly two slashes in front are kept apart from one. -/
inductive Anchor where
  | relative
  | root
  | doubleRoot
  deriving DecidableEq, Repr

/-- How an anchor is written. -/
def Anchor.text : Anchor → Text
  | .relative => []
  | .root => ['/']
  | .doubleRoot => ['/', '/']

/-- The anchor of a written path. -/
def Anchor.ofText : Text → Anchor
  | '/' :: '/' :: '/' :: _ => .root
  | '/' :: '/' :: _ => .doubleRoot
  | '/' :: _ => .root
  | _ => .relative

/-- A path: an anchor and names. -/
structure Path where
  anchor : Anchor
  names : List Text
  deriving DecidableEq, Repr

namespace Path

/-- Is this a name that reading a path keeps? -/
def isKept (name : Text) : Bool := ! name.isEmpty && name != ['.']

/-- Reads a path. -/
def ofText (t : Text) : Path := ⟨.ofText t, (Text.split '/' t).filter isKept⟩

/-- Where names are looked up that are not anchored. -/
def here : Path := ⟨.relative, []⟩

/-- The path as it is written. -/
def text (p : Path) : Text :=
  match p.anchor, p.names with
  | .relative, [] => ['.']
  | anchor, names => anchor.text ++ Text.join ['/'] names

/-- Does the path start from a root? -/
def isAbsolute (p : Path) : Bool := p.anchor != .relative

/-- The second path as seen from the first. -/
def join (p q : Path) : Path := if q.isAbsolute then q else ⟨p.anchor, p.names ++ q.names⟩

end Path

end Stencil
