import Filament.Action
import Filament.Accounting
import Filament.Message

/-!
The backend, which owns materials, spools and selections, and what is done with it: taking over its
selections, selecting a spool, following its messages, and booking what a print used.
-/

namespace Filament

/-- A backend with states `β`. Each call may fail, and may change the state even then. -/
class Backend (β : Type) (α : outParam Type) where
  listProfiles : (force : Bool) → Action β (Error α) (List (Profile α))
  addProfile : Profile α → Action β (Error α) (Profile α)
  updateProfile : (id : Nat) → Profile α → Action β (Error α) (Profile α)
  deleteProfile : (id : Nat) → Action β (Error α) Unit
  listSpools : (force : Bool) → Action β (Error α) (List (Spool α))
  addSpool : Spool α → Action β (Error α) (Spool α)
  updateSpool : (id : Nat) → Spool α → Action β (Error α) (Spool α)
  deleteSpool : (id : Nat) → Action β (Error α) Unit
  listSelections : Action β (Error α) (List (Selection α))
  updateSelection : (tool : Nat) → (spool : Option Nat) → Action β (Error α) (Selection α)

variable {α β ν : Type}

namespace Usage

/-- Sends the spool to the backend. A spool without an id cannot be sent. -/
def send [Backend β α] (u : Usage α) : StateM β (Option (Except (Error α) (Spool α))) :=
  match u.spool.id with
  | some id => do return some (← (Backend.updateSpool id u.spool).run)
  | none => return none

/-- Sends all spools with an id, also after a failure. Returns the spools as stored, or the first
failure. -/
def sendAll [Backend β α] (usage : List (Usage α)) : Action β (Error α) (List (Spool α)) := do
  let answers ← (usage.mapM send : StateM β _)
  ((answers.filterMap id).mapM id : Except (Error α) _)

end Usage

/-- An accounting and the backend that it works with. -/
structure Session (α β ν : Type) where
  accounting : Accounting α ν
  backend : β

namespace Session

def onBackend {γ : Type} (x : Action β (Error α) γ) : Action (Session α β ν) (Error α) γ :=
  x.on Session.backend fun backend s => { s with backend }

variable [Scalar α] [Notifier ν]

def dispatch (event : Event α) : Action (Session α β ν) (Error α) (Option (Outcome α)) :=
  Action.on Session.accounting (fun accounting s => { s with accounting })
    (Accounting.dispatch event)

variable [Backend β α]

/-- Takes over the selections of the backend. -/
def sync : Action (Session α β ν) (Error α) (Option (Outcome α)) := do
  dispatch (.backendSelections (← onBackend Backend.listSelections))

/-- Stores a selection on the backend and takes over its answer. A tool that the printer does not
have is refused before the backend is asked. -/
def select (tool : Nat) (spool : Option Nat) :
    Action (Session α β ν) (Error α) (Option (Outcome α)) := do
  let _ ← (← get).accounting.registry.get tool
  let selection ← onBackend (Backend.updateSelection tool spool)
  dispatch (.selectionChanged selection.tool selection.spool)

/-- Follows a message of the backend. -/
def handle (message : Message) : Action (Session α β ν) (Error α) (Option (Outcome α)) :=
  if message.requiresRefresh then sync else return none

end Session
end Filament
