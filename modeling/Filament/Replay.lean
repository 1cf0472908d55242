import Filament.Display
import Filament.Host
import Filament.Scenario.Basic
import Filament.Store

/-!
Replaying recorded sessions with a backend in memory and a shell that only keeps the record. Every
step yields a report.
-/

namespace Filament

variable {α : Type}

/-- What a confirmation step came to. -/
inductive ConfirmationResult where
  | notRequired
  | confirmed
  | mismatch
deriving DecidableEq, Repr

/-- What else there is to say about a step. Lines of a program count from one. -/
inductive Detail (α : Type) where
  | offsets (byLabel : List (String × α))
  | confirmation (result : ConfirmationResult)
  | pause (tool line : Nat)
  | booked (usage : Usage α)

/-- The report on a step: its number and name, what a recompute found, and details. -/
structure Report (α : Type) where
  step : Nat
  name : String
  consumption : List (Consumption α)
  notice : Option Nat
  dismissed : Option Nat
  details : List (Detail α)

/-- Why a step fails. Usage cannot be booked on a spool whose weight is no bound. -/
inductive StepError (α : Type) where
  | error (cause : Error α)
  | unbookable

namespace Replay

/-- A session with a store in memory and a recording shell. -/
abbrev State (α : Type) := Session α (Store α) NoticeLog

variable [Scalar α]

/-- A session before its first step. -/
def start (settings : Settings α) (backend : Store α) : State α where
  accounting := Accounting.start NoticeLog.empty settings
  backend := backend

def ofScenario (s : Scenario α) : State α := start s.settings (Store.ofSeeds s.profiles s.spools)

/-! ## Steps -/

/-- Whether the answers name the selected spools. Answers are matched with the tools of the job in
order; tools without one stay open, and surplus answers are passed over. -/
def confirmationResult (s : State α) (answers : List (Option Nat)) : ConfirmationResult :=
  if Confirmation.isRequired s.accounting.settings then
    let slots := Confirmation.slots s.accounting.job
    let given := (slots.zip answers).map fun e => { e.1 with spool := e.2 }
    if Confirmation.allMatch s.accounting.registry (given ++ slots.drop answers.length) then
      .confirmed
    else .mismatch
  else .notRequired

def feedLine (line : String) : StateM (State α) PrintAction :=
  modifyGet fun s =>
    let (action, accounting) := s.accounting.feedLine line
    (action, { s with accounting })

def finishPrint : Action (State α) (StepError α) (List (Usage α)) :=
  Action.ofFun fun s =>
    let (usage, accounting) := s.accounting.finishPrint
    match usage with
    | some usage => (.ok usage, { s with accounting })
    | none => (.error .unbookable, { s with accounting })

/-- The first pause that was asked for, if any. -/
def firstPause? (actions : List PrintAction) : Option (Detail α) :=
  (actions.zipIdx 1).findSome? fun e =>
    match e.1 with
    | .pause tool => some (.pause tool e.2)
    | .proceed => none

/-- Follows the messages in order. Returns what the last recompute found. -/
def handleAll (messages : List Message) :
    Action (State α) (Error α) (Option (Outcome α)) :=
  messages.foldlM (fun last message => return (← Session.handle message).or last) none

def fallible {γ : Type} (x : Action (State α) (Error α) γ) : Action (State α) (StepError α) γ :=
  ExceptT.adapt .error x

/-- Runs a print: every line goes through the odometer, the usage is booked at the end, and the
messages that this causes are followed. -/
def runPrint (program : String) :
    Action (State α) (StepError α) (Option (Outcome α) × List (Detail α)) := do
  modify fun s => { s with accounting := s.accounting.startPrint }
  let actions ← ((Text.lines program).mapM feedLine : StateM (State α) _)
  let usage ← finishPrint
  let _ ← fallible (Session.onBackend (Usage.sendAll usage))
  let messages ← modifyGet fun s =>
    let (messages, backend) := s.backend.drain
    (messages, { s with backend })
  let outcome ← fallible (handleAll messages)
  return (outcome, (firstPause? actions).toList ++ usage.map .booked)

/-- What a step does. Returns what a recompute found, and the details. -/
def perform : Step α → Action (State α) (StepError α) (Option (Outcome α) × List (Detail α))
  | .toolCount count => report (Session.dispatch (.toolCountChanged count))
  | .select tool spool => do
    let outcome ← fallible (Session.select tool spool)
    return (outcome, [.offsets (← get).accounting.registry.temperatureOffsets])
  | .file name => report (Session.dispatch (.fileChanged name))
  | .telemetry filament => report (Session.dispatch (.telemetryChanged filament))
  | .closeNotice id => report (Session.dispatch (.noticeClosed id))
  | .confirm answers => do
    return (none, [.confirmation (confirmationResult (← get) answers)])
  | .print program => runPrint program
where
  report (x : Action (State α) (Error α) (Option (Outcome α))) :
      Action (State α) (StepError α) (Option (Outcome α) × List (Detail α)) := do
    return (← fallible x, [])

/-- Runs a step with the given number. -/
def runStep (number : Nat) (step : Step α) : Action (State α) (StepError α) (Report α) := do
  let (outcome, details) ← perform step
  return {
    step := number
    name := step.name
    consumption := (outcome.map Outcome.consumption).getD []
    notice := outcome.bind Outcome.notice
    dismissed := outcome.bind Outcome.dismissed
    details }

/-- How far a replay came: the reports on the steps that succeeded, the failure that ended it, if
one did, and the session as it is then. -/
structure Progress (α : Type) where
  reports : List (Report α)
  failure : Option (StepError α)
  state : State α

/-- Runs one more step, unless one has failed. -/
def Progress.advance (p : Progress α) (step : Step α × Nat) : Progress α :=
  match p.failure with
  | some _ => p
  | none =>
    match (runStep step.2 step.1).run p.state with
    | (.ok report, state) => { p with reports := p.reports ++ [report], state }
    | (.error failure, state) => { p with failure := some failure, state }

/-- Replays a scenario from its beginning, up to the first step that fails. Steps count from one. -/
def progress (s : Scenario α) : Progress α :=
  (s.steps.zipIdx 1).foldl Progress.advance
    { reports := [], failure := none, state := ofScenario s }

/-- The reports on all steps, and the session at the end. -/
def run (s : Scenario α) : Except (StepError α) (List (Report α) × State α) :=
  let p := progress s
  match p.failure with
  | some failure => .error failure
  | none => .ok (p.reports, p.state)

/-- One line a stored spool: what is left on it, and what it cost. -/
def summary (s : State Float) : List String :=
  s.backend.spools.values.map fun spool =>
    spool.displayName ++ ": " ++ spool.displayRemaining ++ " left, " ++
      Display.cost spool.cost s.accounting.settings.currencySymbol

end Replay

/-! ## Texts -/

namespace ConfirmationResult

def text : ConfirmationResult → String
  | .notRequired => "confirmation not required"
  | .confirmed => "spool selection confirmed"
  | .mismatch => "spool selection does not match"

end ConfirmationResult

namespace Detail

def text : Detail Float → String
  | .offsets byLabel =>
    let parts := byLabel.map fun e => e.1 ++ "=" ++ Decimal.sentence.text e.2
    "temperature offsets: " ++ String.intercalate ", " parts
  | .confirmation result => result.text
  | .pause tool line => s!"pause requested for {Tool.label tool} at line {line}"
  | .booked usage =>
    Tool.label usage.tool ++ ": " ++ Decimal.twoPlaces usage.length ++ "mm, " ++
      Display.mass usage.mass ++ " booked on '" ++ usage.spool.displayName ++ "'"

end Detail

namespace Report

/-- The report as it is printed. -/
def lines (r : Report Float) : List String :=
  s!"[{r.step}] {r.name}" ::
    r.consumption.map (fun c => s!"    Filament ({Tool.label c.tool}): {c.display}") ++
    r.notice.toList.map
      (fun id => s!"    ! {Notice.insufficientFilament.title} (notice {id})") ++
    r.dismissed.toList.map (fun id => s!"    notice {id} dismissed") ++
    r.details.map (fun d => "    " ++ d.text)

end Report

namespace StepError

def message : StepError Float → String
  | .error cause => cause.message
  | .unbookable => "Usage cannot be booked on a spool without a proper weight"

def fileFault? : StepError α → Option FileFault
  | .error cause => cause.fileFault?
  | .unbookable => none

end StepError

/-! ## JSON -/

namespace Report

def toJson (r : Report Float) : Json :=
  .ofFields ([("step", .ofNat r.step), ("name", .ofString r.name),
    ("consumption", .ofList Consumption.toJson r.consumption),
    ("notice", .ofOption .ofNat r.notice), ("dismissed", .ofOption .ofNat r.dismissed)] ++
    if r.details.isEmpty then []
    else [("details", .ofList (fun d => .ofString d.text) r.details)])

end Report
end Filament
