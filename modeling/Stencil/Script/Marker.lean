import Stencil.Text.Basic

/-!
# Line markers

The lines of a script are numbered anew, from 1 on. A marker says where one of them was written: in
which file and on which line. A line is located through the last marker that does not stand after
it; `Marker.find?` searches for it by halving, `Marker.scan?` by going through the markers from the
front.
-/

namespace Stencil

/-- Where a line of a script was written. -/
structure Marker where
  line : Nat
  filename : Text
  authored : Int
  deriving DecidableEq, Repr

namespace Marker

/-- The place that a marker names. -/
def place (m : Marker) : Text × Int := (m.filename, m.authored)

/-- Between `low` and `high`, how many markers in front stand at or before a line. -/
def countUpTo (markers : Array Marker) (line : Int) (low high : Nat) : Nat :=
  if low < high then
    let middle := (low + high) / 2
    match markers[middle]? with
    | some m =>
      if line < m.line then countUpTo markers line low middle
      else countUpTo markers line (middle + 1) high
    | none => low
  else low
termination_by high - low

/-- The last marker at or before a line, for markers in order. -/
def find? (markers : List Marker) (line : Int) : Option Marker :=
  let array := markers.toArray
  match countUpTo array line 0 array.size with
  | 0 => none
  | n + 1 => array[n]?

/-- The last marker before the first one that stands after a line. -/
def scan? (markers : List Marker) (line : Int) : Option Marker :=
  (markers.takeWhile fun m => (m.line : Int) ≤ line).getLast?

end Marker

end Stencil
