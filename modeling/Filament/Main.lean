import Std.Time.DateTime.Timestamp
import Filament.CommandLine.Run

/-!
The program on the machine at hand.
-/

namespace Filament

/-- The fault that an error of the operating system stands for. -/
def FileFault.ofError (e : IO.Error) : FileFault :=
  match e with
  | .noFileOrDirectory .. | .noSuchThing .. => .notFound
  | .inappropriateType _ _ details =>
    if details = "Is a directory" then .isADirectory else .notADirectory
  | .alreadyExists .. => .alreadyExists
  | .resourceBusy .. => .busy
  | .invalidArgument _ _ details =>
    if details = "string contains NUL bytes" then .nulInName
    else if details = "File name too long" ∨ details = "name too long" then .nameTooLong
    else .other (toString e)
  | e => .other (toString e)

def attempt {γ : Type} (x : IO γ) : IO (Except FileFault γ) :=
  try return .ok (← x) catch e => return .error (.ofError e)

/-- The size of a file is counted no further than it takes to see that the file is too large. -/
instance : Files IO where
  pathExists path := do return (← attempt (IO.FS.realPath path)).isOk
  size path := attempt do
    let handle ← IO.FS.Handle.mk path .read
    return (← handle.read (maxFileSize + 1).toUSize).size
  read path := do
    match ← attempt (IO.FS.readBinFile path) with
    | .error fault => return .error fault
    | .ok bytes =>
      match String.fromUTF8? bytes with
      | some text => return .ok text
      | none => return .error .notText
  makeDirectories path := attempt (IO.FS.createDirAll path)
  write path text := attempt (IO.FS.writeFile path text)
  append path text := attempt do (← IO.FS.Handle.mk path .append).putStr text
  move source target := attempt (IO.FS.rename source target)

/-- The user that a process runs for, by the lines of its status. -/
def userId? (status : String) : Option String :=
  (Text.lines status).findSome? fun line =>
    match (line.split Char.isWhitespace).toStringList.filter (!·.isEmpty) with
    | "Uid:" :: id :: _ => some id
    | _ => none

/-- The home of a user, by the lines of the list of all users. -/
def homeOf? (users id : String) : Option String :=
  (Text.lines users).findSome? fun line =>
    match (line.split (· == ':')).toStringList with
    | [_, _, number, _, _, home, _] => if number = id ∧ home ≠ "" then some home else none
    | _ => none

instance : Environment IO where
  valueOf? name := IO.getEnv name
  platformDirectory? := do
    let read (path : String) : IO String := do
      return (← (Files.read path : IO (Except FileFault String))).toOption.getD ""
    let home? := (userId? (← read "/proc/self/status")).bind (homeOf? (← read "/etc/passwd"))
    return home?.map (Path.join · ".config")
  milliseconds := do
    return (← Std.Time.Timestamp.now).toMillisecondsSinceUnixEpoch.toInt.toNat

/-- What is said of arguments that are not understood. -/
def usage : String :=
  "Usage: filament [--json] [--logging] check <PATH> | odometer <PATH> | " ++
    "settings show | settings get <KEY> | settings set <KEY> <VALUE> | settings path"

/-- The error and what caused it, one cause a line. -/
def failureText : List String → String
  | [] => "Error"
  | [message] => "Error: " ++ message
  | message :: causes =>
    "Error: " ++ message ++ "\n\nCaused by:\n" ++
      String.intercalate "\n" (causes.map ("    " ++ ·))

end Filament

def main (arguments : List String) : IO UInt32 := do
  match Filament.CommandLine.parse? arguments with
  | none =>
    IO.eprintln Filament.usage
    return 2
  | some invocation =>
    match ← Filament.CommandLine.run invocation with
    | .ok text =>
      IO.print text
      return 0
    | .error chain =>
      IO.eprintln (Filament.failureText chain)
      return 1
