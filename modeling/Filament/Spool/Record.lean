import Filament.Json.Fields
import Filament.Spool.Basic

/-!
Materials, spools and selections as JSON. An entry without an id has no field for it. Reading takes
the reader of numbers as an argument.
-/

namespace Filament

variable {α : Type}

/-- The field of an id, left out if there is none. -/
def Json.idField (id : Option Nat) : List (String × Json) :=
  match id with
  | some n => [("id", .ofNat n)]
  | none => []

namespace Profile

def fieldNames : List String := ["id", "vendor", "material", "density", "diameter"]

def toJson (p : Profile Float) : Json :=
  .ofFields (Json.idField p.id ++
    [("vendor", .ofString p.vendor), ("material", .ofString p.material),
      ("density", .ofFloat p.density), ("diameter", .ofFloat p.diameter)])

def ofJson? (number : Json → Option α) (j : Json) : Option (Profile α) := do
  let f ← Json.Fields.ofJson? fieldNames j
  return {
    id := ← f.withDefault "id" none (Json.option? Json.natural?)
    vendor := ← f.withDefault "vendor" "" Json.string?
    material := ← f.withDefault "material" "" Json.string?
    density := ← f.required "density" number
    diameter := ← f.required "diameter" number }

end Profile

namespace Spool

def fieldNames : List String := ["id", "name", "profile", "cost", "weight", "used", "temp_offset"]

def toJson (s : Spool Float) : Json :=
  .ofFields (Json.idField s.id ++
    [("name", .ofString s.name), ("profile", s.profile.toJson), ("cost", .ofFloat s.cost),
      ("weight", .ofFloat s.weight), ("used", .ofFloat s.used),
      ("temp_offset", .ofFloat s.tempOffset)])

def ofJson? [Scalar α] (number : Json → Option α) (j : Json) : Option (Spool α) := do
  let f ← Json.Fields.ofJson? fieldNames j
  return {
    id := ← f.withDefault "id" none (Json.option? Json.natural?)
    name := ← f.required "name" Json.string?
    profile := ← f.required "profile" (Profile.ofJson? number)
    cost := ← f.withDefault "cost" Scalar.zero number
    weight := ← f.required "weight" number
    used := ← f.withDefault "used" Scalar.zero number
    tempOffset := ← f.withDefault "temp_offset" Scalar.zero number }

end Spool

namespace Selection

def fieldNames : List String := ["tool", "spool"]

def toJson (s : Selection Float) : Json :=
  .ofFields [("tool", .ofNat s.tool), ("spool", .ofOption Spool.toJson s.spool)]

def ofJson? [Scalar α] (number : Json → Option α) (j : Json) : Option (Selection α) := do
  let f ← Json.Fields.ofJson? fieldNames j
  return {
    tool := ← f.required "tool" Json.natural?
    spool := ← f.nullable "spool" (Spool.ofJson? number) }

end Selection
end Filament
