import Filament.Decimal.Numeral
import Filament.Decimal.Shortest

/-!
How decimals are written: a record of the decisions of a format, and one function that follows it.
Numbers with a fixed count of places are rounded from the exact value of the double.
-/

namespace Filament
namespace Decimal

/-- The decisions of a format. Leading exponents from `plainFrom` on and below `plainBelow` are
written without an exponent; a missing bound is no bound. -/
structure Style where
  plainFrom : Option Int
  plainBelow : Option Int
  pointZero : Bool
  tie : Tie
deriving DecidableEq, Repr

def zeros (n : Nat) : List Char := List.replicate n '0'

/-- The digits before the point and those after it. A whole number keeps a zero after the point if
the style asks for it. -/
def plain (pointZero : Bool) (digits : List Char) (exponent : Int) : List Char × List Char :=
  if 0 ≤ exponent then (digits ++ zeros exponent.toNat, if pointZero then ['0'] else [])
  else
    let places := exponent.natAbs
    if places < digits.length then digits.splitAt (digits.length - places)
    else (['0'], zeros (places - digits.length) ++ digits)

namespace Style

def writesPlain (s : Style) (leading : Int) : Bool :=
  s.plainFrom.all (· ≤ leading) && s.plainBelow.all (leading < ·)

/-- The numeral of a decimal. With an exponent it has one digit before the point. -/
def numeral (s : Style) (d : Decimal) : Numeral :=
  let digits := Nat.toDigits 10 d.digits
  let leading := d.exponent + digits.length - 1
  let ((whole, fraction), exponent) :=
    if s.writesPlain leading then (plain s.pointZero digits d.exponent, 0)
    else (digits.splitAt 1, leading)
  { negative := d.negative, whole, fraction, exponent }

/-- The text of a decimal in the style. -/
def chars (s : Style) (d : Decimal) : List Char := (s.numeral d).chars

end Style

/-- The texts of the doubles that are no decimal. -/
def specialText (x : Float) : String :=
  if x.isNaN then "NaN" else if isNegative x then "-inf" else "inf"

/-- The text of a double in a style. -/
def Style.text (s : Style) (x : Float) : String :=
  match shortest? s.tie x with
  | some d => String.ofList (s.chars d)
  | none => specialText x

/-- Numbers inside sentences: never an exponent, whole numbers without a point. -/
def sentence : Style where
  plainFrom := none
  plainBelow := none
  pointZero := false
  tie := .up

/-- The nearest natural number to a quotient; a half goes to the even neighbour. -/
def roundHalfEven (num den : Nat) : Nat :=
  match compare (2 * (num % den)) den with
  | .lt => num / den
  | .gt => num / den + 1
  | .eq => if num / den % 2 = 0 then num / den else num / den + 1

/-- A finite double with a fixed count of places, rounded from its exact value. -/
def fixedChars (places : Nat) (x : Float) : List Char :=
  let (num, den) := fraction x
  let digits := Nat.toDigits 10 (roundHalfEven (num * Nat.pow 10 places) den)
  let padded := zeros (places + 1 - digits.length) ++ digits
  (if isNegative x then ['-'] else []) ++
    padded.take (padded.length - places) ++ '.' :: padded.drop (padded.length - places)

/-- Amounts shown to the user have two places. -/
def twoPlaces (x : Float) : String :=
  if x.isFinite then String.ofList (fixedChars 2 x) else specialText x

end Decimal
end Filament
