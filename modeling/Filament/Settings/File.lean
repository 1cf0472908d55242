import Filament.Files.Access
import Filament.Files.Path
import Filament.Json.Printer
import Filament.Json.Reader
import Filament.Settings.Entry
import Filament.Settings.Record

/-!
The settings file and the cache over it.

A file is written beside its place and moved there whole, so that a failure leaves the old one as it
was. What is read passes the checks of size, form and range before it is used.
-/

namespace Filament

namespace UserFiles

variable {m : Type → Type} [Monad m] [Environment m]

/-- The directory above that of the user's files: one that the environment names, or else that of
the platform. -/
def base? : m (Option String) := do
  match ← Environment.valueOf? "XDG_CONFIG_HOME" with
  | some base => return some base
  | none =>
    match ← Environment.valueOf? "HOME" with
    | some home => return some (Path.join home ".config")
    | none => Environment.platformDirectory?

/-- The directory of the user's files, none if there is no place for it. -/
def directory? : m (Option String) := do
  return (← base?).map (Path.join · "filamentmanager")

end UserFiles

namespace Files

variable {m : Type → Type} [Monad m] [Files m]

/-- Refuses a file that is larger than settings and scenarios are. -/
def checkSize (path : String) : ExceptT (Error Float) m Unit := do
  match ← Files.size (m := m) path with
  | .ok size => if maxFileSize < size then throw (.config (.fileTooLarge path))
  | .error fault => throw (.fileRead path fault)

def readText (path : String) : ExceptT (Error Float) m String := do
  match ← Files.read (m := m) path with
  | .ok text => return text
  | .error fault => throw (.fileRead path fault)

/-- Writes a text beside its place and moves it there. The path beside is taken to be another file:
a link from it to the file in place would have the text written there at once. -/
def replace (path text : String) : ExceptT (Error Float) m Unit := do
  let beside := Path.withExtension path "json.tmp"
  match ← Files.write (m := m) beside text with
  | .ok () => pure ()
  | .error fault => throw (.fileWrite beside fault)
  match ← Files.move (m := m) beside path with
  | .ok () => pure ()
  | .error fault => throw (.fileWrite path fault)

end Files

namespace Settings

variable {m : Type → Type} [Monad m] [Files m]

/-- The settings in a text. -/
def parse (text : String) : Except (Error Float) (Settings Float) := do
  match (Json.parse? text).bind (ofJson? Json.float?) with
  | some s => s.check; return s
  | none => throw (.config .unreadableSettings)

def text (s : Settings Float) : String := s.toJson.indented

/-- Reads settings from a file. A file that is missing holds the standard settings. -/
def loadFrom (path : String) : ExceptT (Error Float) m (Settings Float) := do
  if ← Files.pathExists (m := m) path then
    Files.checkSize path
    return ← parse (← Files.readText path)
  else return standard

def saveTo (path : String) (s : Settings Float) : ExceptT (Error Float) m Unit := do
  s.check
  Files.replace path s.text

variable [Environment m]

/-- The path of the user's settings file. Its directory is made if it is missing. -/
def filePath : ExceptT (Error Float) m String := do
  match ← UserFiles.directory? (m := m) with
  | none => throw (.config .noDirectory)
  | some directory =>
    if !(← Files.pathExists (m := m) directory) then
      match ← Files.makeDirectories (m := m) directory with
      | .ok () => pure ()
      | .error fault => throw (.config (.cannotCreateDirectory fault))
    return Path.join directory "settings.json"

def load : ExceptT (Error Float) m (Settings Float) := do
  loadFrom (← filePath)

/-! ## The cache -/

/-- The settings last read or saved by the process. -/
abbrev Cached (m : Type → Type) := StateT (Option (Settings Float)) m

/-- An operation on the files alone. -/
def uncached {γ : Type} (x : ExceptT (Error Float) m γ) : ExceptT (Error Float) (Cached m) γ :=
  ExceptT.mk (StateT.lift x.run)

def remember (s : Option (Settings Float)) : Cached m Unit := modify fun _ => s

/-- Saves the user's settings and remembers them. -/
def save (s : Settings Float) : ExceptT (Error Float) (Cached m) Unit := do
  uncached do saveTo (← filePath) s
  (remember (some s) : Cached m Unit)

/-- Changes the user's settings. Nothing is written if the change is refused, whatever it has done
to the settings by then. -/
def update (change : Action (Settings Float) (Error Float) Unit) :
    ExceptT (Error Float) (Cached m) (Settings Float) := do
  let (result, s) := change.run (← uncached load)
  result
  save s
  return s

/-- The remembered settings. If there are none, those in the file, or the standard ones if the file
cannot be used. -/
def cached : Cached m (Settings Float) := do
  match ← get with
  | some s => return s
  | none =>
    let s :=
      match ← StateT.lift (load : ExceptT (Error Float) m _).run with
      | .ok s => s
      | .error _ => standard
    remember (some s)
    return s

/-- Forgets the remembered settings. -/
def forget : Cached m Unit := remember none

end Settings
end Filament
