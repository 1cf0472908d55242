import Filament.Error
import Filament.Json.Reader
import Filament.Scenario.Step
import Filament.Settings.Record
import Filament.Spool.Record

/-!
Recorded sessions: what the backend holds at the beginning, and the steps that follow.
-/

namespace Filament

structure Scenario (α : Type) where
  settings : Settings α
  profiles : List (Profile α)
  spools : List (Spool α)
  steps : List (Step α)

/-- Why a scenario cannot be replayed although all its values are in range. Steps count from one. -/
inductive ScenarioFault where
  | noId (kind label : String)
  | lastId (kind : String) (id : Nat)
  | duplicateId (kind : String) (id : Nat)
  | unknownSpool (step id : Nat)
deriving DecidableEq, Repr

/-- Why there is no scenario to replay. -/
inductive ScenarioError (α : Type) where
  | error (cause : Error α)
  | unreadable
  | invalid (cause : ScenarioFault)

namespace ScenarioFault

def message : ScenarioFault → String
  | .noId kind label => s!"{kind} '{label}' has no id"
  | .lastId kind id => s!"{kind} id {id} is out of range"
  | .duplicateId kind id => s!"duplicate {kind} id {id}"
  | .unknownSpool step id => s!"step #{step} selects unknown spool {id}"

end ScenarioFault

namespace ScenarioError

variable {α : Type}

def message : ScenarioError Float → String
  | .error cause => cause.message
  | .unreadable => s!"Parse error: {notTheExpectedJson}"
  | .invalid cause => s!"Invalid scenario: {cause.message}"

/-- The fault of a file that lies behind the error. -/
def fileFault? : ScenarioError α → Option FileFault
  | .error cause => cause.fileFault?
  | _ => none

end ScenarioError

namespace Scenario

variable {α : Type}

/-! ## JSON -/

def fieldNames : List String := ["settings", "profiles", "spools", "steps"]

def toJson (s : Scenario Float) : Json :=
  .ofFields [("settings", s.settings.toJson), ("profiles", .ofList Profile.toJson s.profiles),
    ("spools", .ofList Spool.toJson s.spools), ("steps", .ofList Step.toJson s.steps)]

variable [Scalar α]

/-- Only the steps have to be given, and there are no other fields. The steps lie below the object
of the scenario and their own array. -/
def ofJson? (number : Json → Option α) (j : Json) : Option (Scenario α) := do
  let f ← Json.Fields.ofJsonExact? fieldNames j
  return {
    settings := ← f.withDefault "settings" Settings.standard (Settings.ofJson? number)
    profiles := ← f.withDefault "profiles" [] (Json.list? (Profile.ofJson? number))
    spools := ← f.withDefault "spools" [] (Json.list? (Spool.ofJson? number))
    steps := ← f.required "steps" (Json.list? (Step.ofJson? number 2)) }

/-! ## Checks -/

/-- Adds the id of an entry to those of the entries before it. The last id of all is refused, since
no id could be given after it. -/
def enter (kind label : String) (before : List Nat) (id : Option Nat) :
    Except (ScenarioError α) (List Nat) :=
  match id with
  | none => .error (.invalid (.noId kind label))
  | some id =>
    if id = Text.maxWord then .error (.invalid (.lastId kind id))
    else if before.contains id then .error (.invalid (.duplicateId kind id))
    else .ok (id :: before)

def enterProfile (before : List Nat) (p : Profile α) : Except (ScenarioError α) (List Nat) := do
  p.accept.mapError .error
  enter "profile" p.material before p.id

def enterSpool (before : List Nat) (s : Spool α) : Except (ScenarioError α) (List Nat) := do
  s.accept.mapError .error
  enter "spool" s.name before s.id

/-- A selection has to name one of the spools. -/
def checkStep (spools : List Nat) (number : Nat) : Step α → Except (ScenarioError α) Unit
  | .select _ (some id) =>
    if spools.contains id then .ok () else .error (.invalid (.unknownSpool number id))
  | _ => .ok ()

/-- Checks the settings, the entries in their order, and the steps. -/
def check (s : Scenario α) : Except (ScenarioError α) Unit := do
  s.settings.check.mapError .error
  let _ ← s.profiles.foldlM enterProfile []
  let spools ← s.spools.foldlM enterSpool []
  (s.steps.zipIdx 1).forM fun step => checkStep spools step.2 step.1

/-- The scenario in a text. -/
def parse (text : String) : Except (ScenarioError Float) (Scenario Float) := do
  match (Json.parse? text).bind (ofJson? Json.float?) with
  | some s => s.check; return s
  | none => throw .unreadable

end Scenario
end Filament
