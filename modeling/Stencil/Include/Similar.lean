import Stencil.Text.Basic

/-!
# Similar names

How alike two texts are: the share of their characters that stand in common blocks. The longest
common block is found first, then those to the left and to the right of it. In a text of two hundred
characters and more, a character that makes up more than a hundredth of it is *popular*: no block
begins with one, but a block may be extended over popular characters.

`closest?` finds the candidate that is most like a name, if one is alike enough.
-/

namespace Stencil.Similar

/-- Where a common block begins in each of two texts, and its length. -/
structure Block where
  left : Nat
  right : Nat
  size : Nat
  deriving DecidableEq, Repr

/-- The part of two texts in which blocks are looked for. -/
structure Window where
  leftStart : Nat
  leftEnd : Nat
  rightStart : Nat
  rightEnd : Nat

/-- Is a character popular in a text? -/
def isPopular (t : Text) (c : Char) : Bool :=
  200 ≤ t.length && t.length / 100 + 1 < t.count c

/-- The lengths of the common blocks that end at one character of the left text and each character
of the right one, given those for the character before it. -/
def runLengths (c : Char) (skip : Bool) : (before : Nat) → List Nat → Text → List Nat
  | _, _, [] => []
  | before, previous, d :: right =>
    let here := if c = d && ! skip then before + 1 else 0
    here :: runLengths c skip (previous.headD 0) previous.tail right

/-- The better of two blocks: the longer one, or the one that was found first. -/
def better (best : Block) (new : Block) : Block := if best.size < new.size then new else best

/-- The best block that ends at one character of the left text. -/
def bestOfRow (leftPlace rightStart : Nat) (lengths : List Nat) (best : Block) : Block :=
  lengths.zipIdx.foldl
    (fun best entry =>
      better best ⟨leftPlace + 1 - entry.1, rightStart + entry.2 + 1 - entry.1, entry.1⟩)
    best

/-- The best block, row by row of the left text. -/
def bestBlock (popular : Char → Bool) (rightStart : Nat) (right : Text) :
    (leftPlace : Nat) → List Nat → Block → Text → Block
  | _, _, best, [] => best
  | leftPlace, previous, best, c :: left =>
    let lengths := runLengths c (popular c) 0 previous right
    bestBlock popular rightStart right (leftPlace + 1) lengths
      (bestOfRow leftPlace rightStart lengths best) left

/-- How many characters two texts have in common from the front. -/
def commonFront : Text → Text → Nat
  | c :: s, d :: t => if c = d then commonFront s t + 1 else 0
  | _, _ => 0

/-- The part of a text between two places. -/
def slice (t : Text) (start stop : Nat) : Text := (t.take stop).drop start

/-- A block made longer at both ends, as far as the window goes. -/
def extend (s t : Text) (w : Window) (b : Block) : Block :=
  let back :=
    commonFront (slice s w.leftStart b.left).reverse (slice t w.rightStart b.right).reverse
  let front := commonFront (slice s (b.left + b.size) w.leftEnd)
    (slice t (b.right + b.size) w.rightEnd)
  ⟨b.left - back, b.right - back, back + b.size + front⟩

/-- The longest common block in a window: the one that begins first in the left text, then in the
right one. -/
def longest (s t : Text) (w : Window) : Block :=
  let right := slice t w.rightStart w.rightEnd
  let found := bestBlock (isPopular t) w.rightStart right w.leftStart []
    ⟨w.leftStart, w.rightStart, 0⟩ (slice s w.leftStart w.leftEnd)
  extend s t w found

/-- How many characters stand in common blocks. `n` bounds how often a window is divided. -/
def matched (s t : Text) : (n : Nat) → Window → Nat
  | 0, _ => 0
  | n + 1, w =>
    let b := longest s t w
    if b.size = 0 then 0
    else
      matched s t n ⟨w.leftStart, b.left, w.rightStart, b.right⟩ + b.size +
        matched s t n ⟨b.left + b.size, w.leftEnd, b.right + b.size, w.rightEnd⟩

/-- How many characters of two texts stand in common blocks. -/
def common (s t : Text) : Nat :=
  matched s t (s.length + 1) ⟨0, s.length, 0, t.length⟩

/-- A likeness is a share of `parts` in `whole`; no characters at all are all alike. -/
structure Likeness where
  parts : Nat
  whole : Nat

/-- How alike two texts are. -/
def likeness (s t : Text) : Likeness :=
  if s.length + t.length = 0 then ⟨1, 1⟩ else ⟨2 * common s t, s.length + t.length⟩

/-- Is the likeness at least three fifths? -/
def Likeness.isClose (l : Likeness) : Bool := 3 * l.whole ≤ 5 * l.parts

/-- Is the first likeness less than the second? -/
def Likeness.less (l m : Likeness) : Bool := l.parts * m.whole < m.parts * l.whole

/-- The candidate most like a name, if it is close; of two that are alike, the later one in
alphabetical order. -/
def closest? (name : Text) (candidates : List Text) : Option Text :=
  let close := (candidates.map fun c => (likeness c name, c)).filter (·.1.isClose)
  (close.foldl
    (fun best entry =>
      match best with
      | none => some entry
      | some kept =>
        if kept.1.less entry.1 || (! entry.1.less kept.1 && decide (kept.2 < entry.2)) then
          some entry
        else best)
    none).map Prod.snd

end Stencil.Similar
