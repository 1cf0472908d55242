import Filament.Job
import Filament.Registry
import Filament.Settings.Basic

/-!
What the host printer asks for before a print: the temperature offsets of the selected spools, and
whether the user has the right spools loaded.
-/

namespace Filament

variable {α : Type}

/-- The temperature offset of every tool, in the order of the labels as texts. A tool without a
spool has the offset zero, which clears an earlier one. -/
def Registry.temperatureOffsets [Scalar α] (r : Registry α) : List (String × α) :=
  let offsets := r.slots.zipIdx.map fun s =>
    (Tool.label s.2, (s.1.map Spool.tempOffset).getD Scalar.zero)
  offsets.mergeSort fun a b => decide (a.1 ≤ b.1)

/-- The spool that the user says is loaded on a tool, none until one is chosen. -/
structure Confirmation where
  tool : Nat
  spool : Option Nat
deriving DecidableEq, Repr

namespace Confirmation

def toJson (c : Confirmation) : Json :=
  .ofFields [("tool", .ofNat c.tool), ("spool_id", .ofOption .ofNat c.spool)]

def ofJson? (j : Json) : Option Confirmation := do
  let f ← Json.Fields.ofJson? ["tool", "spool_id"] j
  return {
    tool := ← f.required "tool" Json.natural?
    spool := ← f.nullable "spool_id" Json.natural? }

/-- A print has to wait until the user confirms the loaded spools. -/
def isRequired (s : Settings α) : Bool := s.confirmSpoolSelection

/-- One open confirmation for every tool that the job uses. -/
def slots (j : Job α) : List Confirmation := j.tools.map fun tool => { tool, spool := none }

/-- The confirmation names the spool that is selected. A tool that the printer does not have never
matches. -/
def matchesSelection (r : Registry α) (c : Confirmation) : Bool :=
  match r.get c.tool with
  | .ok selected => selected.bind Spool.id == c.spool
  | .error _ => false

/-- Every confirmation names the selected spool. -/
def allMatch (r : Registry α) (confirmations : List Confirmation) : Bool :=
  confirmations.all (matchesSelection r)

end Confirmation
end Filament
