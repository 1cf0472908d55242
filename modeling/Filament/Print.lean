import Filament.Registry
import Filament.Settings.Basic
import Filament.Threshold
import Filament.Usage

/-!
Following a print. The host forwards every line; the print feeds it to the odometer, asks for a
pause when a spool runs out, and books the filament at the end.
-/

namespace Filament

/-- What the host should do after a line was sent. -/
inductive PrintAction where
  | proceed
  | pause (tool : Nat)
deriving DecidableEq, Repr

/-- The latest print. Whether lines are counted and whether pauses are asked for is settled when it
starts. -/
structure Print (α : Type) where
  odometer : Odometer α
  thresholds : Thresholds α
  counting : Bool
  pausing : Bool
  printing : Bool

namespace Print

variable {α : Type} [Scalar α]

/-- No print was started yet. -/
def none : Print α where
  odometer := Odometer.start true
  thresholds := Thresholds.empty
  counting := false
  pausing := false
  printing := false

/-- Follows the spools, selections and reserve of the moment. -/
def updateThresholds (p : Print α) (settings : Settings α) (selections : List (Selection α)) :
    Print α :=
  { p with thresholds := Thresholds.compute selections settings.pauseThreshold }

/-- A new print, whatever the last one was. -/
def start (settings : Settings α) (selections : List (Selection α)) : Print α where
  odometer := Odometer.start settings.g90InfluencesExtruder
  thresholds := Thresholds.compute selections settings.pauseThreshold
  counting := settings.enableOdometer
  pausing := settings.autoPause
  printing := true

/-- Takes a line that was sent to the printer. -/
def feedLine (p : Print α) (line : String) : PrintAction × Print α :=
  if p.printing && p.counting then
    let p := { p with odometer := p.odometer.feedLine line }
    if p.pausing && p.thresholds.shouldPause p.odometer then (.pause p.odometer.tool, p)
    else (.proceed, p)
  else (.proceed, p)

/-- The print has ended, well or not. Books what it extruded; nothing if none was running or lines
were not counted. -/
def finish (p : Print α) (registry : Registry α) : Option (List (Usage α)) × Print α :=
  if p.printing then
    let ended := { p with printing := false }
    if p.counting then (Usage.bookAll? registry.slots p.odometer.extrusion, ended)
    else (some [], ended)
  else (some [], p)

end Print
end Filament
