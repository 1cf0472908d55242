import Filament.Text.Digit

/-!
Signed decimals and the double nearest to one.

`Decimal` is what a numeral in a text denotes: a sign, a natural number of digits and a power of
ten. `toFloat` depends on the value alone, since it first drops the trailing zeros of the digits, so
`5`, `5.0` and `0.5e1` are the same double.
-/

namespace Filament

/-- The number `digits * 10 ^ exponent` with a sign of its own, since a zero may carry one. -/
structure Decimal where
  negative : Bool
  digits : Nat
  exponent : Int
deriving DecidableEq, Repr

namespace Decimal

/-- Moves the trailing zeros of the digits into the exponent. Zero has the exponent zero. -/
def stripZeros (digits : Nat) (exponent : Int) : Nat × Int :=
  if digits = 0 then (0, 0)
  else if digits % 10 = 0 then stripZeros (digits / 10) (exponent + 1)
  else (digits, exponent)
termination_by digits

/-- The same number with as few digits as possible. -/
def normalize (d : Decimal) : Decimal :=
  let (digits, exponent) := stripZeros d.digits d.exponent
  { d with digits, exponent }

/-- How many decimal digits a natural number has; zero has one. -/
def width (n : Nat) : Nat := (Nat.toDigits 10 n).length

/-- The double above every finite one. -/
def infinity : Float := Float.ofBits 0x7FF0000000000000

/-- The double nearest to `digits * 10 ^ exponent`, ties to even. Beyond `10 ^ 310` every number
rounds to infinity and below `10 ^ -330` to zero, so no huge power of ten is ever computed. -/
def nearest (digits : Nat) (exponent : Int) : Float :=
  if digits = 0 then 0
  else if 310 < width digits + exponent then infinity
  else if width digits + exponent < -330 then 0
  else Float.ofScientific digits (exponent < 0) exponent.natAbs

/-- The double nearest to a decimal. -/
def toFloat (d : Decimal) : Float :=
  let n := d.normalize
  if d.negative then -(nearest n.digits n.exponent) else nearest n.digits n.exponent

/-- The decimal with the given digits before and after the point, each below ten, scaled by a power
of ten. -/
def ofDigits (negative : Bool) (whole fraction : List Nat) (exponent : Int) : Decimal :=
  { negative
    digits := Text.ofDigitValues (whole ++ fraction)
    exponent := exponent - fraction.length }

end Decimal
end Filament
