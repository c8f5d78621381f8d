import Stencil.Text.Lines

/-!
# Indentation

Removing the indentation that the lines of a text have in common. Only blanks and tabs indent, and
they are compared character by character: a tab and eight blanks have nothing in common. Lines of
blanks and tabs alone have no say and come out empty.
-/

namespace Stencil.Text

/-- The characters that indent a line. -/
def isIndent (c : Char) : Bool := c == ' ' || c == '\t'

/-- The longest text that both begin with. -/
def commonStart : Text → Text → Text
  | c :: s, d :: t => if c = d then c :: commonStart s t else []
  | _, _ => []

/-- The indentation of a line that holds more than indentation. -/
def indent? (line : Text) : Option Text :=
  if line.all isIndent then none else some (line.takeWhile isIndent)

/-- The indentation that all lines have in common. -/
def margin (lines : List Text) : Text :=
  match lines.filterMap indent? with
  | [] => []
  | first :: rest => rest.foldl commonStart first

/-- The text without the indentation that its lines have in common. -/
def dedent (t : Text) : Text :=
  let width := (margin (lines t)).length
  join ['\n'] ((lines t).map fun line => if line.all isIndent then [] else line.drop width)

theorem commonStart_self (s : Text) : commonStart s s = s := by
  induction s with
  | nil => rfl
  | cons c s ih => simp [commonStart, ih]

end Stencil.Text
