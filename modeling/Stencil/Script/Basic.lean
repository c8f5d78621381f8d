import Stencil.Code.Listing
import Stencil.Diagnostic.IncludeWarning
import Stencil.Script.Marker

/-!
# Scripts

A script is the compiled form of a template: statements with lines numbered anew, the markers that
lead from those lines back to the authored ones, the directives that were left out, and the texts of
all files that contributed.
-/

namespace Stencil

/-- The compiled form of a template. -/
structure Script where
  name : Text
  body : List Code.Stmt
  markers : List Marker
  warnings : List IncludeWarning
  /-- The texts of files by name, in the order in which they were met. -/
  sources : List (Text × Text)

namespace Script

/-- The name that a script goes by as a file. -/
def filename (s : Script) : Text := "<kiln:".toList ++ s.name ++ ['>']

/-- Where a line of a script was written. -/
def locate (s : Script) (line : Int) : Option (Text × Int) :=
  (Marker.find? s.markers line).map Marker.place

/-- The comment that names a place. -/
def placeComment (place : Text × Int) : Text :=
  "# line ".toList ++ Text.ofInt place.2 ++ " \"".toList ++ place.1 ++ ['"']

/-- The rows of the listing for one statement. -/
def listingRows (s : Script) (st : Code.Stmt) : List Text :=
  ((s.locate st.span.first).map placeComment).toList ++ [st.text]

/-- The statements written out, each after a comment with the place it comes from. -/
def listing (s : Script) : Text := Text.join ['\n'] (s.body.flatMap s.listingRows)

end Script

end Stencil
