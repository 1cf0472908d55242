import Filament.Error

/-!
The settings of the front end, and the ranges of their values.
-/

namespace Filament

variable {α : Type}

/-- `pauseThreshold` is the filament kept in reserve when a print is paused, in mm. -/
structure Settings (α : Type) where
  enableOdometer : Bool
  enableWarning : Bool
  autoPause : Bool
  pauseThreshold : α
  currencySymbol : String
  confirmSpoolSelection : Bool
  dismissResolvedWarning : Bool
  g90InfluencesExtruder : Bool

namespace Settings

def standard [Scalar α] : Settings α where
  enableOdometer := true
  enableWarning := true
  autoPause := false
  pauseThreshold := Scalar.ofNat 100
  currencySymbol := "€"
  confirmSpoolSelection := false
  dismissResolvedWarning := false
  g90InfluencesExtruder := true

/-- A reserve lies between zero and `maxReserve`. -/
def checkReserve [Scalar α] (value : α) : Except (Error α) α :=
  if Scalar.isFinite value && Scalar.le Scalar.zero value &&
      Scalar.le value (Scalar.ofNat maxReserve) then .ok value
  else .error (.invalidSetting "pauseThreshold" .reserveOutside)

def checkSymbol (symbol : String) : Except (Error α) Unit :=
  if maxSymbolLength < symbol.length then .error (.invalidSetting "currencySymbol" .symbolTooLong)
  else .ok ()

def check [Scalar α] (s : Settings α) : Except (Error α) Unit := do
  let _ ← checkReserve s.pauseThreshold
  checkSymbol s.currencySymbol

end Settings
end Filament
