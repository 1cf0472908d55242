import Filament.Event
import Filament.Print
import Filament.Watch

/-!
The accounting front.

All reports enter through `dispatch`, one event at a time. An event that changes the selections or
the job has every shortage looked at again. The pause thresholds follow the selections and the
reserve, whether or not a print is running. Whoever is subscribed hears of each event that is not
refused, and of what is found.
-/

namespace Filament

/-- What listeners are told. -/
inductive Observation (α : Type) where
  | event (e : Event α)
  | recompute (o : Outcome α)

/-- Somebody who mirrors the accounting. A listener answers nothing, so what it is and shows follows
from what it was told, which is kept here, oldest first. -/
structure Listener (α : Type) where
  heard : List (Observation α)

def Listener.hear {α : Type} (l : Listener α) (o : Observation α) : Listener α where
  heard := l.heard ++ [o]

/-- The listeners stand in the order in which they were subscribed. -/
structure Accounting (α ν : Type) where
  registry : Registry α
  job : Job α
  watch : Watch α ν
  print : Print α
  listeners : List (Listener α)

namespace Accounting

variable {α ν : Type}

def subscribe (a : Accounting α ν) (l : Listener α) : Accounting α ν :=
  { a with listeners := a.listeners ++ [l] }

/-- Tells every listener in turn. -/
def tell (a : Accounting α ν) (o : Observation α) : Accounting α ν :=
  { a with listeners := a.listeners.map (·.hear o) }

/-- An operation on the selections. -/
def onRegistry {γ : Type} (x : Action (Registry α) (Error α) γ) :
    Action (Accounting α ν) (Error α) γ :=
  x.on registry fun registry a => { a with registry }

/-- An operation on the job. -/
def onJob {γ : Type} (x : Action (Job α) (Error α) γ) : Action (Accounting α ν) (Error α) γ :=
  x.on job fun job a => { a with job }

/-- An operation on the watch. -/
def onWatch {γ : Type} (x : Action (Watch α ν) (Error α) γ) : Action (Accounting α ν) (Error α) γ :=
  x.on watch fun watch a => { a with watch }

variable [Scalar α]

/-- A printer whose tools are not known yet. -/
def start (notifier : ν) (settings : Settings α) : Accounting α ν where
  registry := Registry.blank 0
  job := Job.empty
  watch := Watch.start notifier settings
  print := Print.none
  listeners := []

def settings (a : Accounting α ν) : Settings α := a.watch.settings

/-- Brings the pause thresholds up to date. -/
def followSelections (a : Accounting α ν) : Accounting α ν :=
  { a with print := a.print.updateThresholds a.settings a.registry.selections }

/-- Takes an event in and says whether the selections or the job changed. -/
def take (event : Event α) : Action (Accounting α ν) (Error α) Bool :=
  match event with
  | .toolCountChanged count => do
    let count ← (checkToolCount count : Except (Error α) Nat)
    onRegistry (modifyGet (·.resize count))
  | .selectionChanged tool spool => do
    onRegistry (Registry.set tool spool)
    return true
  | .backendSelections selections => onRegistry (modifyGet (·.push selections))
  | .telemetryChanged filament => onJob (modifyGet (·.setFilament filament))
  | .fileChanged file => onJob (modifyGet (·.setFile file))
  | .noticeClosed id => do
    onWatch (modify (·.noticeClosed id))
    return false
  | .settingsChanged settings => do
    settings.check
    onWatch (modify ({ · with settings }))
    modify followSelections
    return false

/-- Looks at every tool again. -/
def recompute [Notifier ν] (a : Accounting α ν) : Outcome α × Accounting α ν :=
  let (outcome, watch) := a.watch.recompute a.registry a.job
  (outcome, { a with watch })

/-- Handles one event. Returns what the recompute found, if one was due. -/
def dispatch [Notifier ν] (event : Event α) :
    Action (Accounting α ν) (Error α) (Option (Outcome α)) := do
  let changed ← take event
  if changed && event.concernsSelections then modify followSelections
  modify (·.tell (.event event))
  if !changed then return none
  let outcome ← modifyGet recompute
  modify (·.tell (.recompute outcome))
  return some outcome

/-! ## The print -/

def startPrint (a : Accounting α ν) : Accounting α ν :=
  { a with print := Print.start a.settings a.registry.selections }

/-- A line of the program was sent to the printer. -/
def feedLine (a : Accounting α ν) (line : String) : PrintAction × Accounting α ν :=
  let (action, print) := a.print.feedLine line
  (action, { a with print })

/-- The print has ended. What it used is still to be sent to the backend. -/
def finishPrint (a : Accounting α ν) : Option (List (Usage α)) × Accounting α ν :=
  let (usage, print) := a.print.finish a.registry
  (usage, { a with print })

end Accounting
end Filament
