import Filament.Decimal.Style
import Filament.Spool.Basic
import Filament.Text.Blank

/-!
What a material, a spool and the address of a request have to satisfy. A check stops at the first
fault, so the order of the tests is part of the rule.
-/

namespace Filament

variable {α : Type}

/-- Why an entry or a request is refused. -/
inductive Invalid (α : Type) where
  | emptyName (field : String)
  | longName (field : String)
  | notPositive (field : String)
  | noProfile
  | negativeCost
  | negativeWeight
  | usedOutside (used weight : α)
  | unboundedOffset
  | toolIndex
  | idMismatch (body path : Nat)

/-- Names have at most this many bytes. -/
def maxNameBytes : Nat := 255

/-- The highest tool that a selection request may name. -/
def maxToolIndex : Nat := 63

namespace Invalid

def message : Invalid Float → String
  | .emptyName field => s!"{field} cannot be empty"
  | .longName field => s!"{field} too long (max {maxNameBytes} chars)"
  | .notPositive field => s!"{field} must be greater than zero"
  | .noProfile => "Spool must reference an existing profile"
  | .negativeCost => "Cost must be a non-negative number"
  | .negativeWeight => "Weight must be a non-negative number"
  | .usedOutside used weight =>
    "Used weight " ++ Decimal.sentence.text used ++ " outside 0..=" ++ Decimal.sentence.text weight
  | .unboundedOffset => "Temperature offset must be a number"
  | .toolIndex => s!"Tool index out of range (0-{maxToolIndex})"
  | .idMismatch body path => s!"Body id {body} does not match path id {path}"

end Invalid

/-- A name has to have a character that is not blank. -/
def checkName (field value : String) : Except (Invalid α) Unit :=
  if (Text.trim value).isEmpty then .error (.emptyName field)
  else if maxNameBytes < value.utf8ByteSize then .error (.longName field)
  else .ok ()

variable [Scalar α]

def checkPositive (field : String) (value : α) : Except (Invalid α) Unit :=
  if !Scalar.isFinite value || Scalar.le value Scalar.zero then .error (.notPositive field)
  else .ok ()

/-- A finite quantity that is not below zero. -/
def isAmount (value : α) : Bool := Scalar.isFinite value && !Scalar.lt value Scalar.zero

def Profile.check (p : Profile α) : Except (Invalid α) Unit := do
  checkName "vendor" p.vendor
  checkName "material" p.material
  checkPositive "density" p.density
  checkPositive "diameter" p.diameter

/-- Of the material only its id and its measures matter, since a spool refers to a stored one. -/
def Spool.check (s : Spool α) : Except (Invalid α) Unit := do
  checkName "name" s.name
  if s.profile.id.isNone then throw .noProfile
  checkPositive "diameter" s.profile.diameter
  checkPositive "density" s.profile.density
  if !isAmount s.cost then throw .negativeCost
  if !isAmount s.weight then throw .negativeWeight
  if !isAmount s.used || Scalar.lt s.weight s.used then throw (.usedOutside s.used s.weight)
  if !Scalar.isFinite s.tempOffset then throw .unboundedOffset

def checkToolIndex (tool : Nat) : Except (Invalid α) Unit :=
  if maxToolIndex < tool then .error .toolIndex else .ok ()

/-- An entry sent to the address of an id carries that id or none. -/
def checkSameId (path : Nat) (body : Option Nat) : Except (Invalid α) Unit :=
  match body with
  | some id => if id = path then .ok () else .error (.idMismatch id path)
  | none => .ok ()

end Filament
