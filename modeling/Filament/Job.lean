import Filament.Consumption
import Filament.Json.Fields
import Filament.Tool

/-!
The loaded print job: the name of its file, and the filament that the host reported for it.
-/

namespace Filament

variable {α : Type}

/-- The filament that a sliced file needs of the tool with this label, in mm. -/
structure Telemetry (α : Type) where
  label : String
  length : α

instance [BEq α] : BEq (Telemetry α) where
  beq a b := a.label == b.label && a.length == b.length

/-- The tool that a report is about. -/
def Telemetry.tool? (t : Telemetry α) : Option Nat := Tool.ofLabel? t.label

def Telemetry.toJson (t : Telemetry Float) : Json :=
  .ofFields [("toolName", .ofString t.label), ("length", .ofFloat t.length)]

/-- The length is zero if it is not given. -/
def Telemetry.ofJson? [Scalar α] (number : Json → Option α) (j : Json) : Option (Telemetry α) := do
  let f ← Json.Fields.ofJson? ["toolName", "length"] j
  return {
    label := ← f.required "toolName" Json.string?
    length := ← f.withDefault "length" Scalar.zero number }

structure Job (α : Type) where
  file : Option String
  filament : List (Telemetry α)

namespace Job

/-- No file is loaded. -/
def empty : Job α where
  file := none
  filament := []

/-- Switches to another file, whose filament is unknown until it is reported. Says whether the file
is another one. -/
def setFile (j : Job α) (file : Option String) : Bool × Job α :=
  if j.file = file then (false, j) else (true, { file, filament := [] })

/-- Takes a report on the loaded file. Says whether it differs from the last one. -/
def setFilament [BEq α] (j : Job α) (filament : List (Telemetry α)) : Bool × Job α :=
  if j.filament == filament then (false, j) else (true, { j with filament })

/-- The length that a tool needs by the first report on it, zero if there is none. -/
def lengthFor [Scalar α] (j : Job α) (tool : Nat) : α :=
  match j.filament.find? fun t => t.tool? == some tool with
  | some t => t.length
  | none => Scalar.zero

/-- The tools that the reports name, in the order of the reports. -/
def tools (j : Job α) : List Nat := j.filament.filterMap Telemetry.tool?

end Job
end Filament
