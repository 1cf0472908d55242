import Filament.Action
import Filament.Decimal.Reading
import Filament.Settings.Record

/-!
Single settings by key: reading one as JSON, and setting one from a text that a user typed.
-/

namespace Filament
namespace Settings

/-- The current value under a key, which is the name of its field in JSON. -/
def value (s : Settings Float) (key : String) : Except (Error Float) Json :=
  match s.toJson.field? key with
  | some v => .ok v
  | none => .error (.invalidSetting key .unknown)

def flag? (text : String) : Option Bool :=
  if text = "true" then some true else if text = "false" then some false else none

/-- Reads a value without the blanks around it; a refusal quotes the text as it was typed. -/
def readAs {β : Type} (read : String → Option β) (key text : String) : Except (Error Float) β :=
  match read (Text.trim text) with
  | some b => .ok b
  | none => .error (.invalidSetting key (.unreadable text))

/-- Sets one of the settings that are on or off. -/
def setFlag (put : Bool → Settings Float → Settings Float) (key text : String) :
    Action (Settings Float) (Error Float) Unit := do
  let on ← readAs flag? key text
  modify (put on)

/-- Sets the length that is kept in reserve. -/
def setReserve (key text : String) : Action (Settings Float) (Error Float) Unit := do
  let reserve ← checkReserve (← readAs Decimal.float? key text)
  modify fun s => { s with pauseThreshold := reserve }

/-- Sets the currency symbol as it is typed, blanks included. -/
def setSymbol (text : String) : Action (Settings Float) (Error Float) Unit := do
  (checkSymbol text : Except (Error Float) Unit)
  modify fun s => { s with currencySymbol := text }

/-- Sets the value under `key` to what is read from `text`. -/
def set (key text : String) : Action (Settings Float) (Error Float) Unit :=
  match key with
  | "enableOdometer" => setFlag (fun on s => { s with enableOdometer := on }) key text
  | "enableWarning" => setFlag (fun on s => { s with enableWarning := on }) key text
  | "autoPause" => setFlag (fun on s => { s with autoPause := on }) key text
  | "pauseThreshold" => setReserve key text
  | "currencySymbol" => setSymbol text
  | "confirmSpoolSelection" => setFlag (fun on s => { s with confirmSpoolSelection := on }) key text
  | "dismissResolvedWarning" =>
    setFlag (fun on s => { s with dismissResolvedWarning := on }) key text
  | "g90InfluencesExtruder" => setFlag (fun on s => { s with g90InfluencesExtruder := on }) key text
  | _ => throw (.invalidSetting key .unknown)

end Settings
end Filament
