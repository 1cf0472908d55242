import Filament.CommandLine.Arguments
import Filament.EventLog
import Filament.Odometer
import Filament.Replay

/-!
What the commands do.

A command ends in a text for the standard output, or in a chain of messages, from what was being
done to what went wrong. It is written for any machine, so that it can be run on data.
-/

namespace Filament
namespace CommandLine

variable {m : Type → Type} [Monad m] [Files m] [Environment m]

/-- The messages of an error: what failed, and the fault of the file behind it. -/
def causes (message : String) (fault : Option FileFault) : List String :=
  message :: (fault.map FileFault.message).toList

def errorCauses (e : Error Float) : List String := causes e.message e.fileFault?

/-- The lines of a text, each ended. -/
def ended (lines : List String) : String := String.join (lines.map (· ++ "\n"))

/-! ## Replaying a scenario -/

def loadScenario (path : String) : ExceptT (ScenarioError Float) m (Scenario Float) := do
  let text ← ExceptT.adapt ScenarioError.error do
    Files.checkSize (m := m) path
    Files.readText (m := m) path
  Scenario.parse text

/-- The replay as one JSON value, its fields in the order of their names. -/
def replayJson (reports : List (Report Float)) (s : Replay.State Float) : Json :=
  (Json.ofFields [("steps", .ofList Report.toJson reports),
    ("spools", .ofList Spool.toJson s.backend.spools.values)]).sorted

def replayLines (reports : List (Report Float)) (s : Replay.State Float) : List String :=
  let warnings := (reports.filter (·.notice.isSome)).length
  reports.flatMap Report.lines ++
    s!"{reports.length} step(s), {warnings} warning(s)" :: (Replay.summary s).map ("  " ++ ·)

def stepData (r : Report Float) : Json :=
  .ofFields [("step", .ofNat r.step), ("name", .ofString r.name),
    ("notice", .ofOption .ofNat r.notice)]

def check (log : Option String) (json : Bool) (path : String) :
    ExceptT (List String) m String := do
  let scenario ← (loadScenario path).adapt fun e =>
    s!"loading {path}" :: causes e.message e.fileFault?
  match Replay.run scenario with
  | .error e => throw (causes e.message e.fileFault?)
  | .ok (reports, s) =>
    reports.forM fun r => (EventLog.record log "step" (stepData r) : m Unit)
    return if json then (replayJson reports s).indented ++ "\n" else ended (replayLines reports s)

/-! ## The odometer -/

def odometerLines (extrusion : List Float) : List String :=
  extrusion.zipIdx.map fun e => Tool.label e.2 ++ ": " ++ Display.filament e.1 none

def odometer (json : Bool) (path : String) :
    ExceptT (List String) (Settings.Cached m) String := do
  match ← (StateT.lift (Files.read (m := m) path) : Settings.Cached m _) with
  | .error fault => throw [s!"reading {path}", fault.message]
  | .ok program =>
    let settings ← (Settings.cached : Settings.Cached m _)
    let o : Odometer Float := Odometer.start settings.g90InfluencesExtruder
    let extrusion := (o.feedProgram program).extrusion
    return if json then (Json.ofList Json.ofFloat extrusion).indented ++ "\n"
      else ended (odometerLines extrusion)

/-! ## Settings -/

def settings : SettingsCommand → ExceptT (List String) (Settings.Cached m) String
  | .showAll => do
    let s ← (Settings.cached : Settings.Cached m _)
    return s.text ++ "\n"
  | .get key => do
    let s ← (Settings.cached : Settings.Cached m _)
    match s.value key with
    | .ok value => return value.compact ++ "\n"
    | .error e =>
      throw (("known keys: " ++ String.intercalate ", " Settings.keys) :: errorCauses e)
  | .set key value => do
    let _ ← (Settings.update (Settings.set key value)).adapt errorCauses
    return s!"Set {key} = {value}\n"
  | .path => do
    let path ← (Settings.uncached Settings.filePath).adapt errorCauses
    return path ++ "\n"

/-! ## All commands -/

def runCommand (log : Option String) (json : Bool) :
    Command → ExceptT (List String) (Settings.Cached m) String
  | .check path => ExceptT.mk (StateT.lift (check log json path).run)
  | .odometer path => odometer json path
  | .settings command => settings command

/-- Runs an invocation in a process of its own, with nothing in the cache. -/
def run (i : Invocation) : m (Except (List String) String) := do
  let log ← if i.flags.logging then EventLog.openLog? else pure none
  EventLog.record log "startup" (.ofFields [("command", .ofString i.command.text)])
  let (result, _) ← (runCommand log i.flags.json i.command).run.run none
  if let .error chain := result then
    EventLog.record log "fatal_error"
      (.ofFields [("error", .ofString (String.intercalate ": " chain))])
  return result

end CommandLine
end Filament
