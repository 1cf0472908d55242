import Filament.Text.Quoted

/-!
The commands and their arguments.

A line of arguments is read level by level: the name of the command, for settings the name of what
is done with them, then the operands. Flags may stand at every level, each once. After `--` all
words are operands.
-/

namespace Filament
namespace CommandLine

inductive SettingsCommand where
  | showAll
  | get (key : String)
  | set (key value : String)
  | path
deriving DecidableEq, Repr

inductive Command where
  | check (path : String)
  | odometer (path : String)
  | settings (command : SettingsCommand)
deriving DecidableEq, Repr

/-- `json` asks for results as JSON, and `logging` for the event log. -/
structure Flags where
  json : Bool := false
  logging : Bool := false
deriving DecidableEq, Repr

structure Invocation where
  flags : Flags
  command : Command
deriving DecidableEq, Repr

namespace Flags

/-- Adds a flag. None if the word is no flag or was given before. -/
def add? (f : Flags) (word : String) : Option Flags :=
  match word with
  | "--json" => if f.json then none else some { f with json := true }
  | "--logging" => if f.logging then none else some { f with logging := true }
  | _ => none

def either (f g : Flags) : Flags := { json := f.json || g.json, logging := f.logging || g.logging }

end Flags

/-- A word that cannot be an operand before `--`. A single dash can. -/
def looksLikeFlag (word : String) : Bool := word.startsWith "-" && word != "-"

/-- The flags at the beginning of a level, and the words after them. -/
def leadingFlags? (f : Flags) : List String → Option (Flags × List String)
  | [] => some (f, [])
  | word :: rest =>
    if looksLikeFlag word then (f.add? word).bind fun f => leadingFlags? f rest
    else some (f, word :: rest)

/-- The flags and operands of the last level. -/
def operands? (f : Flags) : List String → Option (Flags × List String)
  | [] => some (f, [])
  | word :: rest =>
    if word = "--" then some (f, rest)
    else if looksLikeFlag word then (f.add? word).bind fun f => operands? f rest
    else (operands? f rest).map fun r => (r.1, word :: r.2)

/-- The command for the operands of a name below `settings`. -/
def settingsCommand? : String → List String → Option SettingsCommand
  | "show", [] => some .showAll
  | "get", [key] => some (.get key)
  | "set", [key, value] => some (.set key value)
  | "path", [] => some .path
  | _, _ => none

/-- The command for the operands of a name. A path is never empty. -/
def fileCommand? : String → List String → Option Command
  | "check", [path] => if path.isEmpty then none else some (.check path)
  | "odometer", [path] => if path.isEmpty then none else some (.odometer path)
  | _, _ => none

/-- What a line of arguments asks for; none if it is not understood. -/
def parse? (arguments : List String) : Option Invocation := do
  let (outer, rest) ← leadingFlags? {} arguments
  match rest with
  | "settings" :: rest =>
    let (middle, rest) ← leadingFlags? {} rest
    match rest with
    | name :: rest =>
      let (inner, operands) ← operands? {} rest
      let command ← settingsCommand? name operands
      return { flags := (outer.either middle).either inner, command := .settings command }
    | [] => none
  | name :: rest =>
    let (inner, operands) ← operands? {} rest
    return { flags := outer.either inner, command := ← fileCommand? name operands }
  | [] => none

/-! ## In the event log -/

namespace SettingsCommand

def text : SettingsCommand → String
  | .showAll => "Show"
  | .get key => "Get \x7b key: " ++ Text.quoted key ++ " \x7d"
  | .set key value =>
    "Set(SetSettingArgs \x7b key: " ++ Text.quoted key ++ ", value: " ++ Text.quoted value ++
      " \x7d)"
  | .path => "Path"

end SettingsCommand

namespace Command

/-- The command as the event log shows it. -/
def text : Command → String
  | .check path => "Check \x7b path: " ++ Text.quoted path ++ " \x7d"
  | .odometer path => "Odometer \x7b path: " ++ Text.quoted path ++ " \x7d"
  | .settings command => "Settings(" ++ command.text ++ ")"

end Command
end CommandLine
end Filament
