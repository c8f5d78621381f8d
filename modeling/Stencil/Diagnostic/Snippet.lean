import Stencil.Colour
import Stencil.Text.Lines

/-!
# Source snippets

A snippet shows the line of an error with some lines around it, and perhaps a caret under the
column of the error.
-/

namespace Stencil

/-- Numbered lines of a source, the number of the line in error, and the column for the caret. -/
structure Snippet where
  lines : List (Int × Text)
  errorLine : Int
  column : Option Int
  deriving DecidableEq, Repr

namespace Snippet

/-- The row with the caret under a column. -/
def caretRow (colour : Bool) (column : Int) : Text :=
  paintDim colour "   |".toList ++ ' ' ::
    paint colour [.brightRed] (List.replicate column.toNat ' ' ++ ['^'])

/-- The rows that show one line. -/
def rows (colour : Bool) (s : Snippet) (line : Int × Text) : List Text :=
  let isError := line.1 == s.errorLine
  sourceLine colour line.1 line.2 isError ::
    match s.column with
    | some column => if isError then [caretRow colour column] else []
    | none => []

/-- The snippet as it is shown. -/
def format (colour : Bool) (s : Snippet) : Text :=
  let rule := paintDim colour "   |".toList
  Text.join ['\n'] (rule :: s.lines.flatMap (s.rows colour) ++ [rule])

/-- The snippet of a source around line `line`, with `context` lines before and after it; none when
the source has no such line. -/
def ofSource? (source : Text) (line : Int) (context : Int) (column : Option Int) :
    Option Snippet :=
  let shown := Text.shownLines source
  if 0 < line ∧ line ≤ shown.length then
    let first := (max 0 (line - 1 - context)).toNat
    let last := (min (shown.length : Int) (line + context)).toNat
    let numbered := shown.zipIdx.map fun entry => ((entry.2 + 1 : Int), entry.1)
    some { lines := (numbered.take last).drop first, errorLine := line, column }
  else none

end Snippet

end Stencil
