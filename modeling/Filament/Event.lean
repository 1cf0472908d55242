import Filament.Job
import Filament.Settings.Record
import Filament.Spool.Record

/-!
What the host, the backend and the shell report to the accounting, and its JSON. An event is a
tagged record; the tag is its name.
-/

namespace Filament

inductive Event (α : Type) where
  | toolCountChanged (count : Nat)
  | selectionChanged (tool : Nat) (spool : Option (Spool α))
  | backendSelections (selections : List (Selection α))
  | telemetryChanged (filament : List (Telemetry α))
  | fileChanged (file : Option String)
  | noticeClosed (id : Nat)
  | settingsChanged (settings : Settings α)

namespace Event

variable {α : Type}

def name : Event α → String
  | .toolCountChanged _ => "tool_count_changed"
  | .selectionChanged _ _ => "selection_changed"
  | .backendSelections _ => "backend_selections"
  | .telemetryChanged _ => "telemetry_changed"
  | .fileChanged _ => "file_changed"
  | .noticeClosed _ => "notice_closed"
  | .settingsChanged _ => "settings_changed"

/-- The selections may be other ones after the event. -/
def concernsSelections : Event α → Bool
  | .toolCountChanged _ | .selectionChanged _ _ | .backendSelections _ => true
  | _ => false

/-- The fields besides the tag. -/
def fields : Event Float → List (String × Json)
  | .toolCountChanged count => [("count", .ofNat count)]
  | .selectionChanged tool spool =>
    [("tool", .ofNat tool), ("spool", .ofOption Spool.toJson spool)]
  | .backendSelections selections => [("selections", .ofList Selection.toJson selections)]
  | .telemetryChanged filament => [("filament", .ofList Telemetry.toJson filament)]
  | .fileChanged file => [("filename", .ofOption .ofString file)]
  | .noticeClosed id => [("id", .ofNat id)]
  | .settingsChanged settings => [("settings", settings.toJson)]

def toJson (e : Event Float) : Json := .ofFields (("event", .ofString e.name) :: e.fields)

/-- The event of the given name with the given other parts. -/
def ofParts? [Scalar α] (number : Json → Option α) (name : String) (parts : Json) :
    Option (Event α) :=
  match name with
  | "tool_count_changed" => do
    let f ← Json.Fields.ofJson? ["count"] parts
    return .toolCountChanged (← f.required "count" Json.natural?)
  | "selection_changed" => do
    let f ← Json.Fields.ofJson? ["tool", "spool"] parts
    return .selectionChanged (← f.required "tool" Json.natural?)
      (← f.nullable "spool" (Spool.ofJson? number))
  | "backend_selections" => do
    let f ← Json.Fields.ofJson? ["selections"] parts
    return .backendSelections
      (← f.required "selections" (Json.list? (Selection.ofJson? number)))
  | "telemetry_changed" => do
    let f ← Json.Fields.ofJson? ["filament"] parts
    return .telemetryChanged (← f.required "filament" (Json.list? (Telemetry.ofJson? number)))
  | "file_changed" => do
    let f ← Json.Fields.ofJson? ["filename"] parts
    return .fileChanged (← f.nullable "filename" Json.string?)
  | "notice_closed" => do
    let f ← Json.Fields.ofJson? ["id"] parts
    return .noticeClosed (← f.required "id" Json.natural?)
  | "settings_changed" => do
    let f ← Json.Fields.ofJson? ["settings"] parts
    return .settingsChanged (← f.required "settings" (Settings.ofJson? number))
  | _ => none

def ofJson? [Scalar α] (number : Json → Option α) (j : Json) : Option (Event α) := do
  let (name, parts) ← Json.tagged? "event" 0 j
  ofParts? number name parts

end Event
end Filament
