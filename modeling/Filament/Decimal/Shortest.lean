import Filament.Decimal.Basic

/-!
The fewest decimal digits that read back as a given double.

A decimal reads back when `Decimal.toFloat` returns the double it was chosen for. For one digit, two
digits and so on the search tries the two neighbours of the exact value on the grid of that many
digits; the first grid with a hit wins, and of two hits the nearer one. A tie between two equally
near hits is a matter of the format and therefore an argument.
-/

namespace Filament
namespace Decimal

/-- Which of two equally near decimals is taken. -/
inductive Tie where
  | even
  | up
deriving DecidableEq, Repr

/-- The sign bit, which zeros and the infinities have too. -/
def isNegative (x : Float) : Bool := x.toBits >>> 63 == 1

/-- The leading bit of a normal double, which is not stored. -/
def hiddenBit : Nat := 0x10000000000000

/-- The absolute value of a finite double as an exact fraction. -/
def fraction (x : Float) : Nat × Nat :=
  let bits := x.toBits
  let e := ((bits >>> 52) &&& 0x7FF).toNat
  let f := (bits &&& 0xFFFFFFFFFFFFF).toNat
  if e = 0 then (f, Nat.pow 2 1074)
  else if 1075 ≤ e then ((hiddenBit + f) * Nat.pow 2 (e - 1075), 1)
  else (hiddenBit + f, Nat.pow 2 (1075 - e))

/-- The least `k` such that `num / den < 10 ^ k`, for a fraction of at least `10 ^ -330`. -/
def scale (num den : Nat) : Int :=
  width (num * Nat.pow 10 330 / den) - 330

/-- The fraction in units of `10 ^ g`: numerator and denominator. -/
def inUnits (num den : Nat) (g : Int) : Nat × Nat :=
  (num * Nat.pow 10 (-g).toNat, den * Nat.pow 10 g.toNat)

/-- The multiple of `10 ^ g` that stands for `x`: a neighbour of `num / den` that reads back. -/
def onGrid? (tie : Tie) (x : Float) (num den : Nat) (g : Int) : Option Decimal :=
  let (n, d) := inUnits num den g
  let low : Decimal := { negative := false, digits := n / d, exponent := g }
  let high : Decimal := { negative := false, digits := n / d + 1, exponent := g }
  match low.toFloat == x, high.toFloat == x with
  | true, false => some low
  | false, true => some high
  | false, false => none
  | true, true =>
    match compare (2 * (n % d)) d with
    | .lt => some low
    | .gt => some high
    | .eq => if tie = .even ∧ n / d % 2 = 0 then some low else some high

/-- The exact value of a fraction whose denominator is a power of two. -/
def exact (num den : Nat) : Decimal :=
  { negative := false, digits := num * Nat.pow 5 den.log2, exponent := -den.log2 }

/-- The shortest decimal for a positive finite double. Seventeen digits are always enough; the exact
value stands in where a proof would otherwise be needed. -/
def shortestPositive (tie : Tie) (x : Float) : Decimal :=
  let (num, den) := fraction x
  let k := scale num den
  let hit := (List.range 17).findSome? fun (i : Nat) => onGrid? tie x num den (k - (i + 1))
  (hit.getD (exact num den)).normalize

/-- The shortest decimal that reads back as `x`; none for the infinities and for a double that is no
number. -/
def shortest? (tie : Tie) (x : Float) : Option Decimal :=
  if x.isFinite then
    let d :=
      if x == 0 then { negative := false, digits := 0, exponent := 0 }
      else shortestPositive tie (if isNegative x then -x else x)
    some { d with negative := isNegative x }
  else none

end Decimal
end Filament
