import Stencil.Decimal.Shortest
import Stencil.Value.Basic

/-!
# Arithmetic

Whole numbers of any size and floating-point numbers. An operation on two whole numbers is exact but
for division and negative powers; as soon as one operand is floating, both are.
-/

namespace Stencil

/-- A number. -/
inductive Number where
  | whole (n : Int)
  | floating (x : Float)

/-- The number that a value is; a truth value counts as one or zero. -/
def Value.number? : Value → Option Number
  | .bool b => some (.whole (if b then 1 else 0))
  | .int n => some (.whole n)
  | .float x => some (.floating x)
  | _ => Option.none

/-- The whole number that a value is. -/
def Value.whole? : Value → Option Int
  | .bool b => some (if b then 1 else 0)
  | .int n => some n
  | _ => Option.none

namespace Number

/-- A number as a value. -/
def toValue : Number → Value
  | .whole n => .int n
  | .floating x => .float x

/-- Infinity. -/
def infinity : Float := 1.0 / 0.0

/-- A finite floating-point number as `m · 2^q`. -/
def exactly (x : Float) : Int × Int :=
  let bits := x.toBits.toNat
  let b := Decimal.Binary.ofBits (bits % Nat.pow 2 63)
  (if Nat.pow 2 63 ≤ bits then -b.mantissa else b.mantissa, b.exponent)

/-- The nearest floating-point number. -/
def toFloat : Number → Attempt Float
  | .floating x => .ok x
  | .whole n =>
    let x := Float.ofInt n
    if x.isInf then .error (.overflow "int too large to convert to float".toList) else .ok x

/-! ## Division -/

/-- The floating-point number nearest to a quotient. At least sixty-four binary digits are computed,
and the last of them tells whether anything is left over. -/
def quotient (a b : Int) : Float :=
  let p := a.natAbs
  let q := b.natAbs
  let shift : Int := 66 + q.log2 - p.log2
  let top := p * Nat.pow 2 shift.toNat
  let bottom := q * Nat.pow 2 (-shift).toNat
  let digits := top / bottom
  let digits := if top % bottom = 0 then digits else digits ||| 1
  let x := (Float.ofNat digits).scaleB (-shift)
  if (a < 0) != (b < 0) then -x else x

/-- The remainder of floating-point numbers with the sign of the first, which is exact. -/
def remainder (x y : Float) : Float :=
  if x.isNaN || y.isNaN || x.isInf then 0.0 / 0.0
  else if y.isInf then x
  else
    let (m, p) := exactly x
    let (n, q) := exactly y
    let unit := min p q
    let r := (m.natAbs * Nat.pow 2 (p - unit).toNat) % (n.natAbs * Nat.pow 2 (q - unit).toNat)
    let size := (Float.ofNat r).scaleB unit
    if m < 0 || Nat.pow 2 63 ≤ x.toBits.toNat then -size else size

/-- The rounded-down quotient and the remainder with the sign of the divisor. -/
def floorDivMod (x y : Float) : Float × Float :=
  let r := remainder x y
  let d := (x - r) / y
  let signed (z : Float) : Float := if Nat.pow 2 63 ≤ z.toBits.toNat then -0.0 else 0.0
  let (d, r) :=
    if r == 0.0 then (d, signed y)
    else if (y < 0.0) != (r < 0.0) then (d - 1.0, r + y)
    else (d, r)
  if d == 0.0 then (signed (x / y), r)
  else
    let whole := d.floor
    (if d - whole > 0.5 then whole + 1.0 else whole, r)

/-! ## Operations -/

/-- A power with a floating-point exponent or a negative one. -/
def floatPower (x y : Float) : Attempt Value :=
  if x == 0.0 && y < 0.0 then
    .error (.zeroDivision "0.0 cannot be raised to a negative power".toList)
  else
    let z := Float.pow x y
    if z.isInf && ! x.isInf && ! y.isInf then
      .error (.error (.object (.known "OverflowError".toList)
        [.int 34, .text "Numerical result out of range".toList] none))
    else .ok (.float z)

/-- An operation on whole numbers. -/
def onWhole (op : Code.BinaryOp) (a b : Int) : Attempt Value :=
  match op with
  | .add => .ok (.int (a + b))
  | .sub => .ok (.int (a - b))
  | .mul => .ok (.int (a * b))
  | .div =>
    if b = 0 then .error (.zeroDivision "division by zero".toList)
    else if a = 0 then .ok (.float 0.0)
    else
      let x := quotient a b
      if x.isInf then
        .error (.overflow "integer division result too large for a float".toList)
      else .ok (.float x)
  | .floorDiv =>
    if b = 0 then .error (.zeroDivision "integer division or modulo by zero".toList)
    else .ok (.int (a.fdiv b))
  | .mod =>
    if b = 0 then .error (.zeroDivision "integer modulo by zero".toList)
    else .ok (.int (a.fmod b))
  | .pow =>
    match b with
    | .ofNat n => .ok (.int (Int.pow a n))
    | .negSucc _ => do floatPower (← toFloat (.whole a)) (← toFloat (.whole b))

/-- An operation on floating-point numbers. -/
def onFloats (op : Code.BinaryOp) (x y : Float) : Attempt Value :=
  match op with
  | .add => .ok (.float (x + y))
  | .sub => .ok (.float (x - y))
  | .mul => .ok (.float (x * y))
  | .div =>
    if y == 0.0 then .error (.zeroDivision "float division by zero".toList)
    else .ok (.float (x / y))
  | .floorDiv =>
    if y == 0.0 then .error (.zeroDivision "float floor division by zero".toList)
    else .ok (.float (floorDivMod x y).1)
  | .mod =>
    if y == 0.0 then .error (.zeroDivision "float modulo".toList)
    else .ok (.float (floorDivMod x y).2)
  | .pow => floatPower x y

/-- An arithmetic operation. -/
def operate (op : Code.BinaryOp) (a b : Number) : Attempt Value :=
  match a, b with
  | .whole a, .whole b => onWhole op a b
  | a, b => do onFloats op (← a.toFloat) (← b.toFloat)

/-! ## Comparison -/

/-- How two numbers compare; a whole number and a floating one are compared exactly. Nothing
compares with what is not a number. -/
def compare? : Number → Number → Option Ordering
  | .whole a, .whole b => some (compare a b)
  | .floating x, .floating y =>
    if x < y then some .lt else if x == y then some .eq else if y < x then some .gt else none
  | .whole a, .floating y => wholeFloat? a y
  | .floating x, .whole b => (wholeFloat? b x).map Ordering.swap
where
  /-- A whole number against a floating one. -/
  wholeFloat? (a : Int) (y : Float) : Option Ordering :=
    if y.isNaN then none
    else if y.isInf then some (if 0.0 < y then .lt else .gt)
    else
      let (m, q) := exactly y
      some (compare (a * Nat.pow 2 (-q).toNat) (m * Nat.pow 2 q.toNat))

/-- Are two numbers equal? -/
def equal (a b : Number) : Bool := compare? a b == some .eq

/-- Is the number zero? -/
def isZero : Number → Bool
  | .whole n => n == 0
  | .floating x => x == 0.0

end Number

end Stencil
