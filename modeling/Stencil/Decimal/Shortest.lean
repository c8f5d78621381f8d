import Stencil.Text.Basic

/-!
# The shortest text of a floating-point number

A finite number is `m · 2^q`. The reals that round to it form an interval; its text is the shortest
decimal in the interval, of two equally short ones the nearer, and of two equally near ones the even
one. All of it is done in exact arithmetic on natural numbers: `1, 2, … 17` digits are tried, and
for each count only the two neighbours of the number on that decimal grid.
-/

namespace Stencil.Decimal

/-- The magnitude of a finite floating-point number, `mantissa · 2^exponent`, and whether the gap
below it is half the gap above it. -/
structure Binary where
  mantissa : Nat
  exponent : Int
  narrowBelow : Bool
  deriving DecidableEq, Repr

namespace Binary

/-- The magnitude that the bits of a finite number stand for. -/
def ofBits (bits : Nat) : Binary :=
  let fraction := bits % Nat.pow 2 52
  let scale : Nat := bits / Nat.pow 2 52 % Nat.pow 2 11
  if scale = 0 then ⟨fraction, -1074, false⟩
  else ⟨fraction + Nat.pow 2 52, (scale : Int) - 1075, fraction = 0 && 1 < scale⟩

/-- `n · 10^p`, measured in the unit `2^q · 10^k` and split into numerator and denominator. -/
def decimalUnits (n : Nat) (p : Int) (q : Int) : Nat × Nat :=
  (n * Nat.pow 10 p.toNat * Nat.pow 2 (-q).toNat, Nat.pow 10 (-p).toNat * Nat.pow 2 q.toNat)

/-- Is `n · 10^p` in the interval of the reals that round to `b`? Quarters of the last binary place
are the unit, and the ends belong to the interval of an even mantissa. -/
def covers (b : Binary) (n : Nat) (p : Int) : Bool :=
  let (top, bottom) := decimalUnits n p (b.exponent - 2)
  let low := (4 * b.mantissa - if b.narrowBelow then 1 else 2) * bottom
  let high := (4 * b.mantissa + 2) * bottom
  if b.mantissa % 2 = 0 then low ≤ top && top ≤ high else low < top && top < high

/-- The whole number of `10^p` in `b`, and twice the rest compared with `10^p`. -/
def floorAt (b : Binary) (p : Int) : Nat × Ordering :=
  let top := b.mantissa * Nat.pow 2 b.exponent.toNat * Nat.pow 10 (-p).toNat
  let bottom := Nat.pow 2 (-b.exponent).toNat * Nat.pow 10 p.toNat
  (top / bottom, compare (2 * (top % bottom)) bottom)

/-- The exponent of the leading decimal digit of a number that is not zero. -/
def leadingExponent (b : Binary) : Int :=
  let whole := (b.floorAt 0).1
  if 0 < whole then (Nat.toDigits 10 whole).length - 1
  else
    match (List.range 330).find? fun j : Nat => 0 < (b.floorAt (-(j : Int))).1 with
    | some j => -(j : Int)
    | none => 0

/-- The decimal with its last digit at `10^p` that stands for `b`, if there is one. -/
def onGrid? (b : Binary) (p : Int) : Option Nat :=
  let (n, rest) := b.floorAt p
  match b.covers n p, b.covers (n + 1) p with
  | true, true =>
    match rest with
    | .lt => some n
    | .gt => some (n + 1)
    | .eq => some (if n % 2 = 0 then n else n + 1)
  | true, false => some n
  | false, true => some (n + 1)
  | false, false => none

/-- The shortest decimal for a number that is not zero: its digits as a number, and the exponent of
the last of them. -/
def shortest (b : Binary) : Nat × Int :=
  let lead := b.leadingExponent
  let found := (List.range 17).findSome? fun i : Nat =>
    (b.onGrid? (lead - i)).map fun n => (n, lead - i)
  found.getD (b.onGrid? (lead - 17) |>.getD 0, lead - 17)

end Binary

/-- How a number of these digits is written, when the decimal point stands behind the `point`-th
digit: in positional form from `0.0001` up to sixteen digits, else with an exponent of at least two
digits. -/
def layout (digits : Text) (point : Int) : Text :=
  if -4 < point ∧ point ≤ 16 then
    if point ≤ 0 then "0.".toList ++ List.replicate (-point).toNat '0' ++ digits
    else
      let whole := digits.take point.toNat
      let part := digits.drop point.toNat
      whole ++ List.replicate (point.toNat - digits.length) '0' ++
        '.' :: if part.isEmpty then ['0'] else part
  else
    let exponent := point - 1
    let sign := if exponent < 0 then '-' else '+'
    let size := Text.ofNat exponent.natAbs
    let size := if size.length < 2 then '0' :: size else size
    match digits with
    | [] => []
    | c :: [] => c :: 'e' :: sign :: size
    | c :: rest => c :: '.' :: rest ++ 'e' :: sign :: size

/-- The shortest text that reads back as the number. -/
def floatText (x : Float) : Text :=
  let bits := x.toBits.toNat
  let negative := Nat.pow 2 63 ≤ bits
  let size := bits % Nat.pow 2 63
  if 0x7ff * Nat.pow 2 52 < size then "nan".toList
  else
    let text :=
      if size = 0x7ff * Nat.pow 2 52 then "inf".toList
      else if size = 0 then "0.0".toList
      else
        let (n, p) := (Binary.ofBits size).shortest
        let digits := Text.ofNat n
        layout (Text.dropWhileEnd (· == '0') digits) (digits.length + p)
    if negative then '-' :: text else text

end Stencil.Decimal
