import Filament.Decimal.Style
import Filament.Json.Number

/-!
JSON values.

A value keeps what a reader may need to know: how a number was written, in which
order the fields of an object came, and which of them came twice. A text is missing where an escape
names half of a surrogate pair. Such a text may be passed over but not used.
-/

namespace Filament

inductive Json where
  | null
  | bool (b : Bool)
  | integer (negative : Bool) (magnitude : Nat)
  | decimal (n : Decimal.Numeral)
  | string (s : Option String)
  | array (items : List Json)
  | object (fields : List (Option String × Json))

namespace Json

/-- Numbers are written in full between `10 ^ -5` and `10 ^ 16`, and whole ones end in `.0`. -/
def numberStyle : Decimal.Style where
  plainFrom := some (-5)
  plainBelow := some 16
  pointZero := true
  tie := .even

def ofString (s : String) : Json := .string (some s)

def ofNat (n : Nat) : Json := .integer false n

/-- A double; null stands for one that is no decimal. -/
def ofFloat (x : Float) : Json :=
  match Decimal.shortest? numberStyle.tie x with
  | some d => .decimal (numberStyle.numeral d)
  | none => .null

def ofOption {α : Type} (f : α → Json) : Option α → Json
  | some a => f a
  | none => .null

def ofList {α : Type} (f : α → Json) (l : List α) : Json := .array (l.map f)

/-- An object with the given fields in the given order. -/
def ofFields (fields : List (String × Json)) : Json :=
  .object (fields.map fun f => (some f.1, f.2))

/-! ## Reading values -/

/-- A whole number that fits a machine word, written without point, exponent and sign. -/
def natural? : Json → Option Nat
  | .integer false n => if n ≤ Text.maxWord then some n else none
  | _ => none

/-- The double that a number is read as, none if it is too large. An integer that fits a machine
word is read as the nearest one. -/
def float? : Json → Option Float
  | .integer negative n =>
    if n ≤ Text.maxWord then some (Decimal.toFloat { negative, digits := n, exponent := 0 })
    else Decimal.Numeral.float?
      { negative, whole := Nat.toDigits 10 n, fraction := [], exponent := 0 }
  | .decimal n => n.float?
  | _ => none

def string? : Json → Option String
  | .string s => s
  | _ => none

def bool? : Json → Option Bool
  | .bool b => some b
  | _ => none

/-- The field of an object with the given name. -/
def field? (j : Json) (name : String) : Option Json :=
  match j with
  | .object fields => fields.lookup (some name)
  | _ => none

/-- Null is no value, and anything else has to be read. -/
def option? {α : Type} (read : Json → Option α) : Json → Option (Option α)
  | .null => some none
  | j => (read j).map some

def list? {α : Type} (read : Json → Option α) : Json → Option (List α)
  | .array items => items.mapM read
  | _ => none

/-! ## Whole values

A value that is buffered before anyone knows what it is for has to be sound in every part. -/

mutual

/-- How many arrays and objects enclose the deepest part. -/
def height : Json → Nat
  | .array items => heightItems items + 1
  | .object fields => heightFields fields + 1
  | _ => 0

def heightItems : List Json → Nat
  | [] => 0
  | v :: rest => max (height v) (heightItems rest)

def heightFields : List (Option String × Json) → Nat
  | [] => 0
  | (_, v) :: rest => max (height v) (heightFields rest)

end

mutual

/-- Every text is a text and every number has a finite double. -/
def isSound : Json → Bool
  | .string s => s.isSome
  | .integer negative n => (float? (.integer negative n)).isSome
  | .decimal n => (float? (.decimal n)).isSome
  | .array items => areSoundItems items
  | .object fields => areSoundFields fields
  | .null | .bool _ => true

def areSoundItems : List Json → Bool
  | [] => true
  | v :: rest => isSound v && areSoundItems rest

def areSoundFields : List (Option String × Json) → Bool
  | [] => true
  | (k, v) :: rest => k.isSome && isSound v && areSoundFields rest

end

mutual

/-- The same value with the fields of every object in the order of their names. -/
def sorted : Json → Json
  | .array items => .array (sortedItems items)
  | .object fields =>
    .object ((sortedFields fields).mergeSort fun f g => decide (f.1.getD "" ≤ g.1.getD ""))
  | j => j

def sortedItems : List Json → List Json
  | [] => []
  | v :: rest => sorted v :: sortedItems rest

def sortedFields : List (Option String × Json) → List (Option String × Json)
  | [] => []
  | (k, v) :: rest => (k, sorted v) :: sortedFields rest

end

end Json
end Filament
