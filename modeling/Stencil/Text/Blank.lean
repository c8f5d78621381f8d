import Stencil.Text.Basic

/-!
# Blank characters

The characters that trimming removes: the blanks and line ends of ASCII, its four information
separators, and the spaces and separators of Unicode. This is the set with bidirectional class
WS, B or S, or category Zs.
-/

namespace Stencil.Text

/-- Blank space of any kind, line ends included. -/
def isBlank (c : Char) : Bool :=
  let n := c.toNat
  (9 ≤ n && n ≤ 13) || (28 ≤ n && n ≤ 32) || n == 0x85 || n == 0xa0 || n == 0x1680 ||
    (0x2000 ≤ n && n ≤ 0x200a) || n == 0x2028 || n == 0x2029 || n == 0x202f || n == 0x205f ||
    n == 0x3000

/-- Core's white space is blank. -/
theorem isBlank_of_isWhitespace {c : Char} (h : c.isWhitespace = true) : isBlank c = true := by
  simp only [Char.isWhitespace, Bool.or_eq_true, decide_eq_true_eq] at h
  rcases h with ((h | h) | h) | h <;> subst h <;> rfl

/-- The text without blanks at its ends. -/
def strip (t : Text) : Text := trim isBlank t

end Stencil.Text
