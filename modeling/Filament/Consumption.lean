import Filament.Json.Basic
import Filament.Spool.Basic

/-!
Mass and length of filament. A strand is a cylinder, so `length * pi * radius ^ 2` is its volume in
mm³, and a thousand of them are a cm³.
-/

namespace Filament

variable {α : Type} [Scalar α]

namespace Strand

/-- The mass in grams of a strand whose length and diameter are in mm and whose density in g/cm³. -/
def mass (length diameter density : α) : α :=
  let radius := diameter / Scalar.ofNat 2
  length * Scalar.pi * radius * radius / Scalar.ofNat 1000 * density

/-- The length in mm of a strand of the given mass; none for a strand without width or weight. -/
def length? (mass diameter density : α) : Option α :=
  let radius := diameter / Scalar.ofNat 2
  let crossSection := Scalar.pi * radius * radius
  if density == Scalar.zero || crossSection == Scalar.zero then none
  else some (mass / density * Scalar.ofNat 1000 / crossSection)

end Strand

/-- The mass of a length of this material. -/
def Profile.mass (p : Profile α) (length : α) : α := Strand.mass length p.diameter p.density

/-- The length of what is left on a spool. -/
def Spool.remainingLength? (s : Spool α) : Option α :=
  Strand.length? s.remaining s.profile.diameter s.profile.density

/-- What the loaded job needs of one tool. Without a spool the mass is zero. -/
structure Consumption (α : Type) where
  tool : Nat
  length : α
  mass : α

def Consumption.toJson (c : Consumption Float) : Json :=
  .ofFields [("tool", .ofNat c.tool), ("length", .ofFloat c.length), ("weight", .ofFloat c.mass)]

end Filament
