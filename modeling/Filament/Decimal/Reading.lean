import Filament.Decimal.Basic
import Filament.Text.Digit

/-!
Reading numbers that a user typed. The text is a numeral with an optional sign, fraction and
exponent, or one of the words for the doubles that are no decimal.
-/

namespace Filament
namespace Decimal

/-- The exponent after its mark: a sign if there is one, and digits. No text is no exponent. -/
def exponent? : List Char → Option Int
  | [] => some 0
  | mark :: rest =>
    if mark = 'e' ∨ mark = 'E' then
      match rest with
      | '-' :: ds => (Text.natural? ds).map fun n => -(n : Int)
      | '+' :: ds => (Text.natural? ds).map fun n => (n : Int)
      | ds => (Text.natural? ds).map fun n => (n : Int)
    else none

def isAsciiDigit (c : Char) : Bool := (Text.digitValue? c).isSome

/-- A numeral without a sign. There are digits before the point or after it. -/
def unsigned? (negative : Bool) (cs : List Char) : Option Decimal := do
  let whole := cs.takeWhile isAsciiDigit
  let rest := cs.dropWhile isAsciiDigit
  let (fraction, rest) :=
    match rest with
    | '.' :: r => (r.takeWhile isAsciiDigit, r.dropWhile isAsciiDigit)
    | r => ([], r)
  let exponent ← exponent? rest
  if whole.isEmpty && fraction.isEmpty then none
  else
    return ofDigits negative (← Text.digitValues? whole) (← Text.digitValues? fraction) exponent

/-- A numeral with an optional sign. -/
def ofChars? : List Char → Option Decimal
  | '-' :: cs => unsigned? true cs
  | '+' :: cs => unsigned? false cs
  | cs => unsigned? false cs

/-- The words for infinity, in any mix of upper and lower case. -/
def isInfinityWord (cs : List Char) : Bool :=
  let word := cs.map Char.toLower
  word == ['i', 'n', 'f'] || word == ['i', 'n', 'f', 'i', 'n', 'i', 't', 'y']

/-- The word for what is no number, in any mix of upper and lower case. -/
def isNaNWord (cs : List Char) : Bool := cs.map Char.toLower == ['n', 'a', 'n']

/-- The special double that a text names, with an optional sign. -/
def special? (cs : List Char) : Option Float :=
  let (negative, word) :=
    match cs with
    | '-' :: w => (true, w)
    | '+' :: w => (false, w)
    | w => (false, w)
  if isInfinityWord word then some (if negative then -infinity else infinity)
  else if isNaNWord word then some (0.0 / 0.0)
  else none

/-- The double that a text denotes. -/
def float? (s : String) : Option Float :=
  let cs := s.toList
  (special? cs).or ((ofChars? cs).map toFloat)

end Decimal
end Filament
