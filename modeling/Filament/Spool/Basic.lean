import Filament.Scalar

/-!
Materials, spools, and the spool mounted on a tool.

Equality is equality of content, field by field, as the numbers compare. A spool with a quantity
that is no number therefore differs from itself.
-/

namespace Filament

variable {α : Type}

/-- A material: mass per volume in g/cm³ and the diameter of its strand in mm. The backend assigns
the id, so a material not yet stored has none. -/
structure Profile (α : Type) where
  id : Option Nat
  vendor : String
  material : String
  density : α
  diameter : α

/-- A roll of filament. `weight` is the mass of filament on a full roll and `used` what is gone of
it, both in grams; `tempOffset` adjusts the extruder temperature. -/
structure Spool (α : Type) where
  id : Option Nat
  name : String
  profile : Profile α
  cost : α
  weight : α
  used : α
  tempOffset : α

/-- The spool on a tool, if one is selected. -/
structure Selection (α : Type) where
  tool : Nat
  spool : Option (Spool α)

instance [BEq α] : BEq (Profile α) where
  beq p q :=
    p.id == q.id && p.vendor == q.vendor && p.material == q.material && p.density == q.density &&
      p.diameter == q.diameter

instance [BEq α] : BEq (Spool α) where
  beq s t :=
    s.id == t.id && s.name == t.name && s.profile == t.profile && s.cost == t.cost &&
      s.weight == t.weight && s.used == t.used && s.tempOffset == t.tempOffset

instance [BEq α] : BEq (Selection α) where
  beq a b := a.tool == b.tool && a.spool == b.spool

namespace Profile

/-- The material a new entry starts from. -/
def standard [Scalar α] : Profile α where
  id := none
  vendor := ""
  material := ""
  density := Scalar.ofDecimal { negative := false, digits := 125, exponent := -2 }
  diameter := Scalar.ofDecimal { negative := false, digits := 175, exponent := -2 }

end Profile

namespace Spool

/-- The roll a new entry starts from. -/
def standard [Scalar α] : Spool α where
  id := none
  name := ""
  profile := Profile.standard
  cost := Scalar.ofNat 20
  weight := Scalar.ofNat 1000
  used := Scalar.zero
  tempOffset := Scalar.zero

/-- Grams left on the spool. -/
def remaining [Sub α] (s : Spool α) : α := s.weight - s.used

/-- How a spool is called in reports. -/
def displayName (s : Spool α) : String :=
  s.name ++ " - " ++ s.profile.material ++ " (" ++ s.profile.vendor ++ ")"

end Spool
end Filament
