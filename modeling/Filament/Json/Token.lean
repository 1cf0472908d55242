import Filament.Decimal.Reading
import Filament.Json.Basic

/-!
The tokens of JSON text.

A token is a bracket, a mark, a text or a scalar. Scalars are the maximal runs of letters or of
characters that occur in numerals, so the scan never has to look ahead. `Token.chars` writes a token
and `Token.scan` reads the tokens of a text; blanks between tokens leave no trace.
-/

namespace Filament
namespace Json

inductive Token where
  | openArray
  | closeArray
  | openObject
  | closeObject
  | comma
  | colon
  | text (s : Option String)
  | scalar (value : Json)

namespace Token

open Decimal (exponent? isAsciiDigit)

/-! ## Texts -/

/-- A unit of a quoted text: a character, or the code of half a surrogate pair. -/
inductive Unit16 where
  | char (c : Char)
  | half (code : Nat)

def hexValue? (c : Char) : Option Nat :=
  if '0' ≤ c ∧ c ≤ '9' then some (c.toNat - '0'.toNat)
  else if 'a' ≤ c ∧ c ≤ 'f' then some (c.toNat - 'a'.toNat + 10)
  else if 'A' ≤ c ∧ c ≤ 'F' then some (c.toNat - 'A'.toNat + 10)
  else none

def hexCode? (a b c d : Char) : Option Nat := do
  return 4096 * (← hexValue? a) + 256 * (← hexValue? b) + 16 * (← hexValue? c) + (← hexValue? d)

def isHalf (code : Nat) : Bool := 0xD800 ≤ code && code < 0xE000

def unitOfCode (code : Nat) : Unit16 :=
  if isHalf code then .half code else .char (Char.ofNat code)

/-- The character that a letter stands for after a backslash. -/
def unescape? : Char → Option Char
  | '"' => some '"'
  | '\\' => some '\\'
  | '/' => some '/'
  | 'b' => some '\x08'
  | 'f' => some '\x0c'
  | 'n' => some '\n'
  | 'r' => some '\r'
  | 't' => some '\t'
  | _ => none

/-- Reads up to the closing quote; returns the units and the rest of the text. -/
def units? (acc : List Unit16) : List Char → Option (List Unit16 × List Char)
  | [] => none
  | '"' :: rest => some (acc.reverse, rest)
  | '\\' :: 'u' :: a :: b :: c :: d :: rest =>
    match hexCode? a b c d with
    | some code => units? (unitOfCode code :: acc) rest
    | none => none
  | '\\' :: e :: rest =>
    match unescape? e with
    | some c => units? (.char c :: acc) rest
    | none => none
  | c :: rest => if c = '\\' ∨ c.toNat < 0x20 then none else units? (.char c :: acc) rest

/-- The character of a surrogate pair. -/
def ofPair (high low : Nat) : Char :=
  Char.ofNat (0x10000 + 0x400 * (high - 0xD800) + (low - 0xDC00))

/-- Joins surrogate pairs; none if a half has no partner. -/
def joinUnits? : List Unit16 → Option (List Char)
  | [] => some []
  | .char c :: rest => (joinUnits? rest).map (c :: ·)
  | .half high :: .half low :: rest =>
    if high < 0xDC00 ∧ 0xDC00 ≤ low then (joinUnits? rest).map (ofPair high low :: ·) else none
  | .half _ :: _ => none

/-! ## Scalars -/

/-- The characters of numerals. -/
def isNumeral (c : Char) : Bool :=
  isAsciiDigit c || c == '-' || c == '+' || c == '.' || c == 'e' || c == 'E'

def isLetter (c : Char) : Bool := 'a' ≤ c && c ≤ 'z'

/-- What follows the digits before the point. Without point and exponent a number is an integer. -/
def numeralTail? (negative : Bool) (whole : List Char) : List Char → Option Json
  | [] => some (.integer negative (Nat.ofDigitChars 10 whole 0))
  | '.' :: rest => do
    let fraction := rest.takeWhile isAsciiDigit
    if fraction.isEmpty then none
    return .decimal
      { negative, whole, fraction, exponent := ← exponent? (rest.dropWhile isAsciiDigit) }
  | rest => do
    return .decimal { negative, whole, fraction := [], exponent := ← exponent? rest }

/-- A numeral without its sign: a zero, or digits that start with another one. -/
def unsigned? (negative : Bool) (cs : List Char) : Option Json :=
  match cs.takeWhile isAsciiDigit with
  | [] => none
  | '0' :: _ :: _ => none
  | whole => numeralTail? negative whole (cs.dropWhile isAsciiDigit)

def numeral? : List Char → Option Json
  | '-' :: cs => unsigned? true cs
  | cs => unsigned? false cs

def word? (cs : List Char) : Option Json :=
  if cs == "null".toList then some .null
  else if cs == "true".toList then some (.bool true)
  else if cs == "false".toList then some (.bool false)
  else none

/-! ## The scan -/

/-- The blanks between tokens. -/
def isBlank (c : Char) : Bool := c == ' ' || c == '\t' || c == '\n' || c == '\r'

def punctuation? : Char → Option Token
  | '[' => some .openArray
  | ']' => some .closeArray
  | '\x7b' => some .openObject
  | '\x7d' => some .closeObject
  | ',' => some .comma
  | ':' => some .colon
  | _ => none

theorem length_dropWhile_le (p : Char → Bool) (l : List Char) :
    (l.dropWhile p).length ≤ l.length := by
  induction l with
  | nil => simp
  | cons c l ih =>
    rw [List.dropWhile_cons]
    split
    · exact Nat.le_succ_of_le ih
    · exact Nat.le_refl _

theorem length_of_units? {cs rest : List Char} {acc units : List Unit16}
    (h : units? acc cs = some (units, rest)) : rest.length ≤ cs.length := by
  fun_induction units? acc cs with
  | case1 => simp at h
  | case2 acc cs => simp at h; simp [h]
  | case3 acc a b c d cs code hc ih => have := ih h; simp only [List.length_cons]; omega
  | case4 => simp at h
  | case5 acc e cs hne c hc ih => have := ih h; simp only [List.length_cons]; omega
  | case6 => simp at h
  | case7 => simp at h
  | case8 acc c cs _ _ _ hc ih => have := ih h; simp only [List.length_cons]; omega

/-- The tokens of a text after those already read, none if some part is no token. -/
def scanFrom (acc : List Token) : List Char → Option (List Token)
  | [] => some acc.reverse
  | c :: cs =>
    if isBlank c then scanFrom acc cs
    else if c = '"' then
      match h : units? [] cs with
      | some (units, rest) =>
        have := length_of_units? h
        scanFrom (.text ((joinUnits? units).map String.ofList) :: acc) rest
      | none => none
    else if isLetter c then
      match word? (c :: cs.takeWhile isLetter) with
      | some v =>
        have := length_dropWhile_le isLetter cs
        scanFrom (.scalar v :: acc) (cs.dropWhile isLetter)
      | none => none
    else if isNumeral c then
      match numeral? (c :: cs.takeWhile isNumeral) with
      | some v =>
        have := length_dropWhile_le isNumeral cs
        scanFrom (.scalar v :: acc) (cs.dropWhile isNumeral)
      | none => none
    else
      match punctuation? c with
      | some t => scanFrom (t :: acc) cs
      | none => none
termination_by cs => cs.length
decreasing_by all_goals simp only [List.length_cons]; omega

def scan (cs : List Char) : Option (List Token) := scanFrom [] cs

/-! ## Writing tokens -/

/-- The letter that stands for a character after a backslash. -/
def escape? : Char → Option Char
  | '"' => some '"'
  | '\\' => some '\\'
  | '\x08' => some 'b'
  | '\x0c' => some 'f'
  | '\n' => some 'n'
  | '\r' => some 'r'
  | '\t' => some 't'
  | _ => none

/-- A character inside quotes. Control characters without a letter are written by their code. -/
def charText (c : Char) : List Char :=
  match escape? c with
  | some e => ['\\', e]
  | none =>
    if c.toNat < 0x20 then
      ['\\', 'u', '0', '0', Nat.digitChar (c.toNat / 16), Nat.digitChar (c.toNat % 16)]
    else [c]

/-- A text that is missing is written as the half of a pair. -/
def textChars : Option String → List Char
  | some s => '"' :: s.toList.flatMap charText ++ ['"']
  | none => "\"\\ud800\"".toList

def scalarChars : Json → List Char
  | .null => "null".toList
  | .bool b => if b then "true".toList else "false".toList
  | .integer negative n => (if negative then ['-'] else []) ++ Nat.toDigits 10 n
  | .decimal n => n.chars
  | .string s => textChars s
  | .array _ => ['[', ']']
  | .object _ => ['\x7b', '\x7d']

def chars : Token → List Char
  | .openArray => ['[']
  | .closeArray => [']']
  | .openObject => ['\x7b']
  | .closeObject => ['\x7d']
  | .comma => [',']
  | .colon => [':']
  | .text s => textChars s
  | .scalar v => scalarChars v

end Token
end Json
end Filament
