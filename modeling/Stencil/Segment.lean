import Stencil.Text.Basic

/-!
# Segments and documents

A template is a flat sequence of *segments* in output order: literal text, blocks of code,
interpolations of a variable, and directives that include another file. Nothing nests. A
*document* is the segments of one template with its name and its text.
-/

namespace Stencil

/-- What a segment is. -/
inductive Body where
  /-- Text outside any construct, emitted unchanged. -/
  | literal (text : Text)
  /-- The code of a block, as written between its marks. -/
  | code (text : Text)
  /-- A variable to be written in a named escaping style, or in the default style. -/
  | interpolation (name : Text) (style : Option Text)
  /-- The path of a file to be spliced in. -/
  | directive (path : Text)
  deriving DecidableEq, Repr

/-- A segment with the file and the line on which it begins. -/
structure Segment where
  body : Body
  filename : Text
  line : Int
  deriving DecidableEq, Repr

/-- Segments in document order, the name used in diagnostics, and the text they came from. -/
structure Document where
  name : Text
  segments : List Segment
  source : Text
  deriving DecidableEq, Repr

/-- The path that a segment asks to include, if it is a directive. -/
def Segment.path? (s : Segment) : Option Text :=
  match s.body with
  | .directive path => some path
  | _ => none

/-- Is the segment a directive? -/
def Segment.isDirective (s : Segment) : Bool := s.path?.isSome

namespace Document

/-- The paths of the directives of a document, in order. -/
def includes (d : Document) : List Text := d.segments.filterMap Segment.path?

/-- The document with the given parts put in place of its own. -/
def replace (d : Document) (name : Option Text) (segments : Option (List Segment))
    (source : Option Text) : Document where
  name := name.getD d.name
  segments := segments.getD d.segments
  source := source.getD d.source

end Document

end Stencil
