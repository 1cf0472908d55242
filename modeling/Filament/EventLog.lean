import Filament.Json.Printer
import Filament.Settings.File

/-!
The event log: one line of JSON an event, at the end of a file beside the settings.
-/

namespace Filament
namespace EventLog

variable {m : Type → Type} [Monad m] [Files m] [Environment m]

/-- Where the log lies if there is no place for the user's files. -/
def commonDirectory : String := "/etc/filamentmanager"

/-- The path of the log, none if it cannot be written there. -/
def openLog? : m (Option String) := do
  let directory := (← UserFiles.directory?).getD commonDirectory
  let _ ← Files.makeDirectories (m := m) directory
  let path := Path.join directory "logs.json"
  match ← Files.append (m := m) path "" with
  | .ok () => return some path
  | .error _ => return none

def line (milliseconds : Nat) (event : String) (data : Json) : String :=
  (Json.ofFields [("ts_ms", .ofNat milliseconds), ("event", .ofString event),
    ("data", data)]).sorted.compact ++ "\n"

/-- Adds an event, if there is a log. An event that cannot be written is lost. -/
def record (log : Option String) (event : String) (data : Json) : m Unit := do
  if let some path := log then
    let _ ← Files.append (m := m) path (line (← Environment.milliseconds) event data)

end EventLog
end Filament
