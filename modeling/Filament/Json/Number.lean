import Filament.Decimal.Numeral

/-!
The doubles that numerals in JSON are read as.

The digits are gathered in a machine word, and those for which it has no room only count. The double
nearest to the word is then multiplied or divided by a power of ten, which is a double too. So a
number may be rounded more than once, and the double it is read as need not be the nearest one.
-/

namespace Filament
namespace Decimal
namespace Numeral

/-- Gathers digits in a word until there is no room for the next one, which is left over with all
digits behind it. -/
def gather (word : Nat) : List Char → Nat × List Char
  | [] => (word, [])
  | c :: cs =>
    let more := 10 * word + Text.digitValue c
    if more ≤ Text.maxWord then gather more cs else (word, c :: cs)

/-- The largest `k` for which `10 ^ k` is a double. -/
def maxPower : Nat := 308

/-- The double nearest to `10 ^ k`. -/
def powerOfTen (k : Nat) : Float := nearest 1 k

/-- A double over `10 ^ k`. It is divided step by step if that is no double. -/
def divide (x : Float) (k : Nat) : Float :=
  if k ≤ maxPower then x / powerOfTen k
  else if x == 0 then x
  else divide (x / powerOfTen maxPower) (k - maxPower)
termination_by k
decreasing_by
  have hpos : 0 < maxPower := by decide
  omega

/-- A double times `10 ^ k`, none if that is too large. -/
def multiply? (x : Float) (k : Nat) : Option Float :=
  if k ≤ maxPower then
    let y := x * powerOfTen k
    if y.isFinite then some y else none
  else if x == 0 then some x else none

/-- The double that a numeral is read as. Digits of the fraction for which there is no room are
passed over. -/
def float? (n : Numeral) : Option Float := do
  let (word, uncounted) := gather 0 n.whole
  let (word, ignored) := gather word n.fraction
  let exponent := n.exponent + uncounted.length - (n.fraction.length - ignored.length : Nat)
  let size ←
    if exponent < 0 then some (divide (nearest word 0) exponent.natAbs)
    else multiply? (nearest word 0) exponent.natAbs
  return if n.negative then -size else size

end Numeral
end Decimal
end Filament
