import Filament.Decimal.Basic

/-!
The numbers that lengths, masses and costs are measured in.

The rules of the library are written for any type with this interface. The program runs them on
doubles; a statement about exact arithmetic is about the same rules over an ordered field.
Comparisons answer yes or no and promise no law, because doubles that are no number obey none.
-/

namespace Filament

class Scalar (α : Type) extends Add α, Sub α, Mul α, Div α, BEq α where
  ofNat : Nat → α
  ofDecimal : Decimal → α
  pi : α
  lt : α → α → Bool
  le : α → α → Bool
  isFinite : α → Bool

namespace Scalar

variable {α : Type} [Scalar α]

def zero : α := ofNat 0

/-- The larger of two values. A right value that cannot be compared leaves the left one. -/
def larger (a b : α) : α := if lt a b then b else a

end Scalar

/-- Doubles, with the double nearest to the ratio of a circle's circumference to its diameter. -/
instance : Scalar Float where
  ofNat := Float.ofNat
  ofDecimal := Decimal.toFloat
  pi := 3.141592653589793
  lt := Float.lt
  le := Float.le
  isFinite := Float.isFinite

end Filament
