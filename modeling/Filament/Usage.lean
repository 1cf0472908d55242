import Filament.Consumption

/-!
Booking the filament of a finished print on the selected spools.
-/

namespace Filament

/-- What a tool extruded in mm, the mass in grams by which its spool's `used` grew, and the spool as
it is to be stored. -/
structure Usage (α : Type) where
  tool : Nat
  length : α
  mass : α
  spool : Spool α

namespace Usage

variable {α : Type} [Scalar α]

/-- A mass brought into the range from zero to `bound`. No mass is in range if the bound is below
zero or no number. -/
def clamp? (mass bound : α) : Option α :=
  if Scalar.le Scalar.zero bound then
    some (if Scalar.lt mass Scalar.zero then Scalar.zero
      else if Scalar.lt bound mass then bound else mass)
  else none

/-- Books a length on a spool. What is used never exceeds the weight of the spool. -/
def book? (tool : Nat) (spool : Spool α) (length : α) : Option (Usage α) := do
  let used ← clamp? (spool.used + spool.profile.mass length) spool.weight
  return { tool, length, mass := used - spool.used, spool := { spool with used } }

/-- Books the extruded lengths, in the order of the tools, on the spools in the slots. Tools without
a spool, or known to one side only, are passed over. None if the weight of a spool is no bound. -/
def bookAll? (slots : List (Option (Spool α))) (extrusion : List α) : Option (List (Usage α)) :=
  let mounted := (slots.zip extrusion).zipIdx.filterMap fun e =>
    e.1.1.map fun spool => (e.2, spool, e.1.2)
  mounted.mapM fun m => book? m.1 m.2.1 m.2.2

end Usage
end Filament
