import Filament.Job

/-!
The steps of a recorded session, in the order in which the host delivers them, and their JSON. A
step is a tagged record; the tag is its name.
-/

namespace Filament

/-- A selection names its spool by id and goes through the backend. A confirmation holds one answer
for every tool that the job uses. A print is a whole program, with the booking at its end. -/
inductive Step (α : Type) where
  | toolCount (count : Nat)
  | select (tool : Nat) (spool : Option Nat)
  | file (name : Option String)
  | telemetry (filament : List (Telemetry α))
  | closeNotice (id : Nat)
  | confirm (spools : List (Option Nat))
  | print (program : String)

namespace Step

variable {α : Type}

def name : Step α → String
  | .toolCount _ => "tool_count"
  | .select _ _ => "select"
  | .file _ => "file"
  | .telemetry _ => "telemetry"
  | .closeNotice _ => "close_notice"
  | .confirm _ => "confirm"
  | .print _ => "print"

/-- The fields besides the tag. -/
def fields : Step Float → List (String × Json)
  | .toolCount count => [("count", .ofNat count)]
  | .select tool spool => [("tool", .ofNat tool), ("spool", .ofOption .ofNat spool)]
  | .file name => [("name", .ofOption .ofString name)]
  | .telemetry filament => [("filament", .ofList Telemetry.toJson filament)]
  | .closeNotice id => [("id", .ofNat id)]
  | .confirm spools => [("spools", .ofList (Json.ofOption Json.ofNat) spools)]
  | .print program => [("gcode", .ofString program)]

def toJson (s : Step Float) : Json := .ofFields (("step", .ofString s.name) :: s.fields)

/-- The step of the given name with the given other parts. -/
def ofParts? [Scalar α] (number : Json → Option α) (name : String) (parts : Json) :
    Option (Step α) :=
  match name with
  | "tool_count" => do
    let f ← Json.Fields.ofJson? ["count"] parts
    return .toolCount (← f.required "count" Json.natural?)
  | "select" => do
    let f ← Json.Fields.ofJson? ["tool", "spool"] parts
    return .select (← f.required "tool" Json.natural?) (← f.nullable "spool" Json.natural?)
  | "file" => do
    let f ← Json.Fields.ofJson? ["name"] parts
    return .file (← f.nullable "name" Json.string?)
  | "telemetry" => do
    let f ← Json.Fields.ofJson? ["filament"] parts
    return .telemetry (← f.required "filament" (Json.list? (Telemetry.ofJson? number)))
  | "close_notice" => do
    let f ← Json.Fields.ofJson? ["id"] parts
    return .closeNotice (← f.required "id" Json.natural?)
  | "confirm" => do
    let f ← Json.Fields.ofJson? ["spools"] parts
    return .confirm (← f.required "spools" (Json.list? (Json.option? Json.natural?)))
  | "print" => do
    let f ← Json.Fields.ofJson? ["gcode"] parts
    return .print (← f.required "gcode" Json.string?)
  | _ => none

/-- A step that lies below `depth` arrays and objects. -/
def ofJson? [Scalar α] (number : Json → Option α) (depth : Nat) (j : Json) : Option (Step α) := do
  let (name, parts) ← Json.tagged? "step" depth j
  ofParts? number name parts

end Step
end Filament
