import Filament.Action
import Filament.Error

/-!
Which spool is selected for which tool. Every change to the selections advances the revision.
-/

namespace Filament

variable {α : Type}

/-- One slot a tool, in the order of the tools. -/
structure Registry (α : Type) where
  slots : List (Option (Spool α))
  revision : Nat

namespace Registry

/-- A printer with `count` tools and nothing selected. -/
def blank (count : Nat) : Registry α where
  slots := List.replicate count none
  revision := 0

def toolCount (r : Registry α) : Nat := r.slots.length

/-- Follows the printer's tool count. New tools have no spool, and of fewer tools the highest ones
are dropped. Says whether the count is another one. -/
def resize (r : Registry α) (count : Nat) : Bool × Registry α :=
  if count = r.toolCount then (false, r)
  else
    (true,
      { slots := r.slots.take count ++ List.replicate (count - r.toolCount) none
        revision := r.revision + 1 })

/-- Puts a spool, or none, on a tool. -/
def set (tool : Nat) (spool : Option (Spool α)) : Action (Registry α) (Error α) Unit := do
  let count := (← get).toolCount
  if count ≤ tool then throw (.outOfRange tool count)
  modify fun r => { r with slots := r.slots.set tool spool }
  modify fun r => { r with revision := r.revision + 1 }

/-- The spool on a tool. -/
def get (r : Registry α) (tool : Nat) : Except (Error α) (Option (Spool α)) :=
  match r.slots[tool]? with
  | some spool => .ok spool
  | none => .error (.outOfRange tool r.toolCount)

def selections (r : Registry α) : List (Selection α) :=
  r.slots.zipIdx.map fun s => { tool := s.2, spool := s.1 }

/-- Puts one pushed selection into the slots and says whether that changed them. Tools that the
printer does not have are passed over. -/
def pushOne [BEq α] (state : Bool × List (Option (Spool α))) (selection : Selection α) :
    Bool × List (Option (Spool α)) :=
  match state.2[selection.tool]? with
  | some spool =>
    if spool == selection.spool then state
    else (true, state.2.set selection.tool selection.spool)
  | none => state

/-- Takes the selections that the backend pushed. Says whether a slot changed; the revision advances
once for all of them. -/
def push [BEq α] (r : Registry α) (selections : List (Selection α)) : Bool × Registry α :=
  let (changed, slots) := selections.foldl pushOne (false, r.slots)
  (changed, { slots, revision := if changed then r.revision + 1 else r.revision })

end Registry
end Filament
