import Stencil.Text.Basic

/-!
# Lines

Two notions of line are in use. An *authored line* ends at a newline and nowhere else: authored
lines number the places in a template, and `Place.after` gives the line and column reached at the
end of a text. A *shown line* ends at any line boundary of Unicode: shown lines are what a
diagnostic prints (`shownLines`). Files are read with `unixNewlines`, which makes a newline of every
carriage return.
-/

namespace Stencil

/-- A position in a text: line counted from 1, column from 0. -/
structure Place where
  line : Nat
  column : Nat
  deriving DecidableEq, Repr

/-- The position reached at the end of a text. -/
def Place.after (before : Text) : Place where
  line := 1 + before.count '\n'
  column := (before.reverse.takeWhile (· != '\n')).length

namespace Text

/-- The authored lines of a text: what stands between its newlines. -/
def lines (t : Text) : List Text := split '\n' t

/-- Does a shown line end at this character? -/
def isLineEnd (c : Char) : Bool :=
  let n := c.toNat
  (10 ≤ n && n ≤ 13) || (28 ≤ n && n ≤ 30) || n == 0x85 || n == 0x2028 || n == 0x2029

/-- The shown lines of a text. A carriage return and the newline after it end one line together;
nothing follows the last line end. -/
def shownLines : Text → List Text
  | [] => []
  | '\r' :: '\n' :: t => [] :: shownLines t
  | c :: t =>
    if isLineEnd c then [] :: shownLines t
    else
      match shownLines t with
      | [] => [[c]]
      | line :: rest => (c :: line) :: rest

/-- The text with `\r\n` and lone `\r` turned into newlines. -/
def unixNewlines : Text → Text
  | [] => []
  | '\r' :: '\n' :: t => '\n' :: unixNewlines t
  | c :: t => (if c = '\r' then '\n' else c) :: unixNewlines t

theorem not_mem_unixNewlines (t : Text) : '\r' ∉ unixNewlines t := by
  fun_induction unixNewlines t with
  | case1 => simp
  | case2 t ih => simp [ih]
  | case3 c t _ ih =>
    by_cases hc : c = '\r'
    · simp [hc, ih]
    · simp [hc, ih, Ne.symm hc]

end Text

end Stencil
