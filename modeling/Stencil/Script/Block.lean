import Stencil.Code.Parse
import Stencil.Text.Blank
import Stencil.Text.Indent

/-!
# Code blocks

What stands between the marks of a code block is prepared for reading: code that begins on a line of
its own loses the indentation that its lines have in common; code that begins right behind the mark
loses the blanks in front of it, and the lines after it lose their common indentation only if they
cannot be read as they are.
-/

namespace Stencil

/-- Code ready to be read, and the authored line on which it begins. -/
structure Block where
  code : Text
  line : Int
  deriving DecidableEq, Repr

/-- The code of a block whose mark stands on line `line`. -/
def Block.ofText (t : Text) (line : Int) : Block :=
  match Text.cutAt? ['\n'] t with
  | none => ⟨t.dropWhile Text.isIndent, line⟩
  | some (first, rest) =>
    if first.all Text.isBlank then ⟨Text.dedent rest, line + 1⟩
    else
      let first := first.dropWhile Text.isIndent
      let written := first ++ '\n' :: rest
      ⟨if Code.isCode written then written else first ++ '\n' :: Text.dedent rest, line⟩

/-- How many lines the code has. -/
def Block.height (b : Block) : Nat := b.code.count '\n' + 1

end Stencil
