import Filament.Json.Fields
import Filament.Settings.Basic

/-!
Settings as JSON. Every field has a default, so any part of a settings file may be missing.
-/

namespace Filament

variable {α : Type}

namespace Settings

/-- The keys of the settings, in the order in which they are written. -/
def keys : List String :=
  ["enableOdometer", "enableWarning", "autoPause", "pauseThreshold", "currencySymbol",
    "confirmSpoolSelection", "dismissResolvedWarning", "g90InfluencesExtruder"]

def toJson (s : Settings Float) : Json :=
  .ofFields [("enableOdometer", .bool s.enableOdometer), ("enableWarning", .bool s.enableWarning),
    ("autoPause", .bool s.autoPause), ("pauseThreshold", .ofFloat s.pauseThreshold),
    ("currencySymbol", .ofString s.currencySymbol),
    ("confirmSpoolSelection", .bool s.confirmSpoolSelection),
    ("dismissResolvedWarning", .bool s.dismissResolvedWarning),
    ("g90InfluencesExtruder", .bool s.g90InfluencesExtruder)]

def ofJson? [Scalar α] (number : Json → Option α) (j : Json) : Option (Settings α) := do
  let f ← Json.Fields.ofJson? keys j
  let d : Settings α := standard
  return {
    enableOdometer := ← f.withDefault "enableOdometer" d.enableOdometer Json.bool?
    enableWarning := ← f.withDefault "enableWarning" d.enableWarning Json.bool?
    autoPause := ← f.withDefault "autoPause" d.autoPause Json.bool?
    pauseThreshold := ← f.withDefault "pauseThreshold" d.pauseThreshold number
    currencySymbol := ← f.withDefault "currencySymbol" d.currencySymbol Json.string?
    confirmSpoolSelection :=
      ← f.withDefault "confirmSpoolSelection" d.confirmSpoolSelection Json.bool?
    dismissResolvedWarning :=
      ← f.withDefault "dismissResolvedWarning" d.dismissResolvedWarning Json.bool?
    g90InfluencesExtruder :=
      ← f.withDefault "g90InfluencesExtruder" d.g90InfluencesExtruder Json.bool? }

end Settings
end Filament
