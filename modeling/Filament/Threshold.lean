import Std.Data.TreeMap
import Filament.Consumption
import Filament.Odometer

/-!
When to pause a print. A tool's threshold is the length of filament left on its spool less the
reserve; once the tool has extruded that much, the spool has to be changed.
-/

namespace Filament

variable {α : Type}

structure Thresholds (α : Type) where
  byTool : Std.TreeMap Nat α

namespace Thresholds

def empty : Thresholds α := { byTool := ∅ }

variable [Scalar α]

/-- Adds the threshold of a selection. A spool whose material has no length gets none. -/
def addSelection (reserve : α) (m : Std.TreeMap Nat α) (s : Selection α) : Std.TreeMap Nat α :=
  match s.spool.bind Spool.remainingLength? with
  | some length => m.insert s.tool (length - reserve)
  | none => m

/-- The thresholds for the selected spools, with `reserve` mm kept on each. -/
def compute (selections : List (Selection α)) (reserve : α) : Thresholds α :=
  { byTool := selections.foldl (addSelection reserve) ∅ }

def get? (t : Thresholds α) (tool : Nat) : Option α := t.byTool[tool]?

def isEmpty (t : Thresholds α) : Bool := t.byTool.isEmpty

/-- The thresholds in the order of the tools. -/
def toList (t : Thresholds α) : List (Nat × α) := t.byTool.toList

/-- The active tool has extruded up to its threshold. -/
def shouldPause (t : Thresholds α) (o : Odometer α) : Bool :=
  (t.get? o.tool).any fun threshold => Scalar.le threshold (o.extrusionFor o.tool)

end Thresholds
end Filament
