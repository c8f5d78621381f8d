import Stencil.Text.Basic

/-!
# Sets of code points

A character class of Unicode is written as a table: rows with the hexadecimal ranges of its members,
in ascending order, with blanks between them. `ofTable` reads such a table and `has` looks a
character up in it.
-/

namespace Stencil.CodePoints

/-- The value of a hexadecimal digit; any other character counts as zero. -/
def hexDigit (c : Char) : Nat :=
  if c.isDigit then c.toNat - 48 else if 'a' ≤ c ∧ c ≤ 'f' then c.toNat - 87 else 0

/-- The number that a text of hexadecimal digits stands for. -/
def hexValue (t : Text) : Nat := t.foldl (fun n c => 16 * n + hexDigit c) 0

/-- The words in the rows of a table. -/
def entries (rows : List String) : List Text := rows.flatMap fun row => Text.split ' ' row.toList

/-- Reads `41-5a` as the range from U+0041 to U+005A, and `5f` as one code point. -/
def rangeOf (entry : Text) : Nat × Nat :=
  match Text.split '-' entry with
  | [one] => (hexValue one, hexValue one)
  | first :: last :: _ => (hexValue first, hexValue last)
  | [] => (0, 0)

/-- The ranges that a table lists. -/
def ofTable (rows : List String) : List (Nat × Nat) := (entries rows).map rangeOf

/-- Does one of the ranges hold the character? -/
def has (ranges : List (Nat × Nat)) (c : Char) : Bool :=
  ranges.any fun range => range.1 ≤ c.toNat && c.toNat ≤ range.2

end Stencil.CodePoints
