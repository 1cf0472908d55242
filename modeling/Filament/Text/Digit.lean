/-!
Decimal digits.

A run of digits is recognised in every script, yet only the digits `0` to `9` have a value here: a
run with any other digit in it is recognised and then denotes no number.
-/

namespace Filament
namespace Text

/-- The zeros of the scripts with decimal digits (general category Nd, Unicode 16). Each is followed
by its other nine digits. -/
def digitZeros : List Nat :=
  [0x30, 0x660, 0x6F0, 0x7C0, 0x966, 0x9E6, 0xA66, 0xAE6, 0xB66, 0xBE6, 0xC66, 0xCE6, 0xD66, 0xDE6,
    0xE50, 0xED0, 0xF20, 0x1040, 0x1090, 0x17E0, 0x1810, 0x1946, 0x19D0, 0x1A80, 0x1A90, 0x1B50,
    0x1BB0, 0x1C40, 0x1C50, 0xA620, 0xA8D0, 0xA900, 0xA9D0, 0xA9F0, 0xAA50, 0xABF0, 0xFF10, 0x104A0,
    0x10D30, 0x10D40, 0x11066, 0x110F0, 0x11136, 0x111D0, 0x112F0, 0x11450, 0x114D0, 0x11650,
    0x116C0, 0x116D0, 0x116DA, 0x11730, 0x118E0, 0x11950, 0x11BF0, 0x11C50, 0x11D50, 0x11DA0,
    0x11F50, 0x16130, 0x16A60, 0x16AC0, 0x16B50, 0x16D70, 0x1CCF0, 0x1D7CE, 0x1D7D8, 0x1D7E2,
    0x1D7EC, 0x1D7F6, 0x1E140, 0x1E2F0, 0x1E4F0, 0x1E5F1, 0x1E950, 0x1FBF0]

/-- A decimal digit of any script. -/
def isDigit (c : Char) : Bool := digitZeros.any fun z => z ≤ c.toNat && c.toNat ≤ z + 9

/-- The value of a digit from `0` to `9`. -/
def digitValue? (c : Char) : Option Nat :=
  if '0' ≤ c ∧ c ≤ '9' then some (c.toNat - '0'.toNat) else none

/-- The value of a character that is known to be a digit from `0` to `9`. -/
def digitValue (c : Char) : Nat := c.toNat - '0'.toNat

/-- The values of a run of digits, none if one of them has no value. -/
def digitValues? (cs : List Char) : Option (List Nat) := cs.mapM digitValue?

/-- The number that a list of digit values denotes. -/
def ofDigitValues (ds : List Nat) : Nat := ds.foldl (fun n d => 10 * n + d) 0

/-- The natural number that a text denotes: one digit at least, and nothing else. -/
def natural? (cs : List Char) : Option Nat :=
  if cs.isEmpty then none else (digitValues? cs).map ofDigitValues

/-- The largest number of a machine word. -/
def maxWord : Nat := 0xFFFFFFFFFFFFFFFF

/-- Like `natural?`, for numbers that fit a machine word. -/
def word? (cs : List Char) : Option Nat := (natural? cs).filter (· ≤ maxWord)

/-- The first run of digits in a text, empty if there is none. -/
def firstDigits (cs : List Char) : List Char := (cs.dropWhile (!isDigit ·)).takeWhile isDigit

/-- The decimal text of a natural number. -/
def ofNat (n : Nat) : String := String.ofList (Nat.toDigits 10 n)

end Text
end Filament
