import Stencil.Text.Blank

/-!
# Reading decimals

A decimal is read as a mantissa and a power of ten and then rounded once. Digits may be grouped with
single underscores between them.
-/

namespace Stencil.Decimal

/-- The value of a decimal digit. -/
def digitValue (c : Char) : Nat := c.toNat - '0'.toNat

/-- The number that digits write. -/
def ofDigits (digits : Text) : Nat := digits.foldl (fun n c => 10 * n + digitValue c) 0

/-- The floating-point number nearest to `mantissa` times ten to the `exponent`. Magnitudes that are
far out of range need no arithmetic. -/
def toFloat (mantissa : Nat) (exponent : Int) : Float :=
  let size := (Nat.toDigits 10 mantissa).length + exponent
  if mantissa = 0 ∨ size < -400 then 0.0
  else if 400 < size then 1.0 / 0.0
  else
    match exponent with
    | .ofNat e => Float.ofScientific mantissa false e
    | .negSucc e => Float.ofScientific mantissa true (e + 1)

/-- Takes the longest run of digits with single underscores between them, and leaves the underscores
out. There is none when an underscore follows a digit and no digit follows it. -/
def digitRun? (isDigit : Char → Bool) : Text → Option (Text × Text)
  | [] => some ([], [])
  | c :: t =>
    if isDigit c then (digitRun? isDigit t).map fun run => (c :: run.1, run.2)
    else if c = '_' then
      if t.head?.any isDigit then digitRun? isDigit t else none
    else some ([], c :: t)

/-- The exponent that a text begins with: a sign perhaps, and digits. -/
def exponent? : Text → Option (Int × Text)
  | '+' :: c :: t => (digits? (c :: t)).map fun run => (Int.ofNat (ofDigits run.1), run.2)
  | '-' :: c :: t => (digits? (c :: t)).map fun run => (- Int.ofNat (ofDigits run.1), run.2)
  | t => (digits? t).map fun run => (Int.ofNat (ofDigits run.1), run.2)
where
  /-- A run of digits that is not empty. -/
  digits? (t : Text) : Option (Text × Text) :=
    if t.head?.any Char.isDigit then digitRun? Char.isDigit t else none

/-- A number without a sign, all of the text. -/
def magnitude? (t : Text) : Option Float := do
  let (whole, t) ← if t.head? = some '_' then none else digitRun? Char.isDigit t
  let (part, t) ←
    match t with
    | '.' :: t => if t.head? = some '_' then none else digitRun? Char.isDigit t
    | _ => some ([], t)
  if whole.isEmpty && part.isEmpty then none
  let (exponent, t) ←
    match t with
    | 'e' :: t => exponent? t
    | t => some (0, t)
  if t.isEmpty then some (toFloat (ofDigits (whole ++ part)) (exponent - part.length)) else none

/-- The floating-point number that a text writes, with blanks around it allowed. -/
def readFloat? (t : Text) : Option Float :=
  let t := (Text.strip t).map Char.toLower
  match t with
  | '-' :: t => (unsigned? t).map (- ·)
  | '+' :: t => unsigned? t
  | t => unsigned? t
where
  /-- A number or the name of one. -/
  unsigned? (t : Text) : Option Float :=
    if t = "inf".toList ∨ t = "infinity".toList then some (1.0 / 0.0)
    else if t = "nan".toList then some (0.0 / 0.0)
    else magnitude? t

/-- The integer that a text writes, with a sign perhaps and blanks around it. -/
def readInt? (t : Text) : Option Int :=
  match Text.strip t with
  | '-' :: t => (unsigned? t).map fun n => - Int.ofNat n
  | '+' :: t => (unsigned? t).map Int.ofNat
  | t => (unsigned? t).map Int.ofNat
where
  /-- Digits, all of the text. -/
  unsigned? (t : Text) : Option Nat :=
    if t.head?.any Char.isDigit then
      match digitRun? Char.isDigit t with
      | some (digits, []) => some (ofDigits digits)
      | _ => none
    else none

end Stencil.Decimal
