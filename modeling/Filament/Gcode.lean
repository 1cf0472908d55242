import Filament.Decimal.Reading
import Filament.Error
import Filament.Text.Blank

/-!
The lines of a g-code program, as far as they concern the extruder.

A line is a command letter and number, then parameter words, with or without blanks between them. A
semicolon starts a comment. Of the parameters only the first `E` word with a number counts.
-/

namespace Filament
namespace Gcode

/-- `position` names the extruder position anew, without a move. -/
inductive Command where
  | extrude (e : Decimal)
  | position (e : Decimal)
  | absoluteMode
  | relativeMode
  | absoluteExtrusion
  | relativeExtrusion
  | select (tool : Nat)
deriving DecidableEq, Repr

/-- The digits of a number, with a fraction if digits follow the point. -/
def numberWord? (sign cs : List Char) : Option (List Char) :=
  let whole := cs.takeWhile Text.isDigit
  let fraction :=
    match cs.dropWhile Text.isDigit with
    | '.' :: rest => rest.takeWhile Text.isDigit
    | _ => []
  if !fraction.isEmpty then some (sign ++ whole ++ '.' :: fraction)
  else if !whole.isEmpty then some (sign ++ whole)
  else none

/-- The number right after an `E` and any blanks. -/
def extruderNumber? (cs : List Char) : Option (List Char) :=
  match cs.dropWhile Text.isBlank with
  | '-' :: rest => numberWord? ['-'] rest
  | rest => numberWord? [] rest

/-- The number of the first `E` word that has one. -/
def extruderWord? : List Char → Option (List Char)
  | [] => none
  | c :: cs =>
    if c = 'E' ∨ c = 'e' then (extruderNumber? cs).or (extruderWord? cs) else extruderWord? cs

/-- The extruder position that the parameters give. A number with other digits than `0` to `9` is
none. -/
def extruder? (params : List Char) : Option Decimal :=
  (extruderWord? params).bind Decimal.ofChars?

/-- A line without its comment and the blanks around it. -/
def code (line : List Char) : List Char := Text.trimChars (line.takeWhile (· != ';'))

/-- The command letter in upper case, the command number and the parameters. -/
def split? : List Char → Option (Char × Nat × List Char)
  | c :: cs =>
    let letter := c.toUpper
    if letter = 'G' ∨ letter = 'M' ∨ letter = 'T' then
      (Text.word? (cs.takeWhile Text.isDigit)).map
        fun number => (letter, number, cs.dropWhile Text.isDigit)
    else none
  | [] => none

/-- The command that a code number and its parameters stand for. -/
def command? (letter : Char) (number : Nat) (params : List Char) : Option Command :=
  match letter, number with
  | 'G', 0 => (extruder? params).map .extrude
  | 'G', 1 => (extruder? params).map .extrude
  | 'G', 90 => some .absoluteMode
  | 'G', 91 => some .relativeMode
  | 'G', 92 => (extruder? params).map .position
  | 'M', 82 => some .absoluteExtrusion
  | 'M', 83 => some .relativeExtrusion
  | 'T', tool => if tool < maxToolCount then some (.select tool) else none
  | _, _ => none

/-- What a line does to the extruder, none if it does nothing. -/
def ofLine? (line : String) : Option Command := do
  let (letter, number, params) ← split? (code line.toList)
  command? letter number params

end Gcode
end Filament
