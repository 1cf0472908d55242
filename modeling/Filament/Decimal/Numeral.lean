import Filament.Decimal.Basic

/-!
Numerals by their parts.

The digits of a numeral are kept as they are written, leading and trailing zeros included, since a
reader may round before it has seen all of them.
-/

namespace Filament
namespace Decimal

/-- A numeral: its sign, the digits on both sides of the point, and the exponent. There is no point
without digits behind it, and an exponent of zero is not written. -/
structure Numeral where
  negative : Bool
  whole : List Char
  fraction : List Char
  exponent : Int
deriving DecidableEq, Repr

/-- An exponent with its mark and its sign. -/
def exponentChars (e : Int) : List Char :=
  'e' :: (if e < 0 then '-' else '+') :: Nat.toDigits 10 e.natAbs

namespace Numeral

def chars (n : Numeral) : List Char :=
  (if n.negative then ['-'] else []) ++ n.whole ++
    (if n.fraction.isEmpty then [] else '.' :: n.fraction) ++
    (if n.exponent = 0 then [] else exponentChars n.exponent)

/-- The number that is written. -/
def decimal (n : Numeral) : Decimal where
  negative := n.negative
  digits := Nat.ofDigitChars 10 (n.whole ++ n.fraction) 0
  exponent := n.exponent - n.fraction.length

end Numeral
end Decimal
end Filament
