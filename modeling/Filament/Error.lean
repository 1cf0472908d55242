import Filament.Spool.Check

/-!
What can go wrong, as causes. The wording stands in the `message` functions alone.
-/

namespace Filament

variable {α : Type}

/-- Why an operation on a file failed. -/
inductive FileFault where
  | notFound
  | notADirectory
  | isADirectory
  | alreadyExists
  | busy
  | nameTooLong
  | nulInName
  | notText
  | other (text : String)
deriving DecidableEq, Repr

/-- Why the value of a setting is refused. -/
inductive SettingFault where
  | reserveOutside
  | symbolTooLong
  | unreadable (value : String)
  | unknown
  | other (text : String)
deriving DecidableEq, Repr

/-- Why the backend did not do what it was asked. -/
inductive BackendFault (α : Type) where
  | noIdsLeft
  | noProfile (id : Nat)
  | noSpool (id : Nat)
  | profileInUse (id : Nat)
  | refused (cause : Invalid α)
  | reported (text : String)

/-- Why an answer of the backend cannot be used. -/
inductive ResponseFault where
  | malformed
  | empty (request : String)
  | unexpected (expected got : String)
deriving DecidableEq, Repr

/-- Why the configuration cannot be used. -/
inductive ConfigFault where
  | tooManyTools (count : Nat)
  | fileTooLarge (path : String)
  | noDirectory
  | cannotCreateDirectory (cause : FileFault)
  | unreadableSettings
  | other (text : String)
deriving DecidableEq, Repr

inductive Error (α : Type) where
  | outOfRange (tool count : Nat)
  | invalidProfile (cause : Invalid α)
  | invalidSpool (cause : Invalid α)
  | invalidSetting (key : String) (cause : SettingFault)
  | backend (cause : BackendFault α)
  | backendResponse (cause : ResponseFault)
  | file (cause : FileFault)
  | fileRead (path : String) (cause : FileFault)
  | fileWrite (path : String) (cause : FileFault)
  | config (cause : ConfigFault)
  | jsonParse
  | generic (text : String)

/-- The most tools a printer may have. -/
def maxToolCount : Nat := 64

/-- The longest filament that may be kept in reserve, in mm. -/
def maxReserve : Nat := 100000

/-- A currency symbol has at most this many characters. -/
def maxSymbolLength : Nat := 8

/-- The largest settings file or scenario that is read, in bytes. -/
def maxFileSize : Nat := 1048576

/-- What is said of a text that does not hold what it should. -/
def notTheExpectedJson : String := "not the expected JSON"

namespace FileFault

def message : FileFault → String
  | .notFound => "No such file or directory (os error 2)"
  | .notADirectory => "Not a directory (os error 20)"
  | .isADirectory => "Is a directory (os error 21)"
  | .alreadyExists => "File exists (os error 17)"
  | .busy => "Device or resource busy (os error 16)"
  | .nameTooLong => "File name too long (os error 36)"
  | .nulInName => "file name contained an unexpected NUL byte"
  | .notText => "stream did not contain valid UTF-8"
  | .other text => text

end FileFault

namespace SettingFault

def message : SettingFault → String
  | .reserveOutside => s!"must be between 0 and {maxReserve} mm"
  | .symbolTooLong => s!"at most {maxSymbolLength} characters"
  | .unreadable value => s!"cannot parse '{value}'"
  | .unknown => "unknown setting"
  | .other text => text

end SettingFault

namespace BackendFault

def message : BackendFault Float → String
  | .noIdsLeft => "No ids left"
  | .noProfile id => s!"No profile with id {id}"
  | .noSpool id => s!"No spool with id {id}"
  | .profileInUse id => s!"Profile {id} is still used by a spool"
  | .refused cause => s!"Request validation failed: {cause.message}"
  | .reported text => text

end BackendFault

namespace ResponseFault

def message : ResponseFault → String
  | .malformed => s!"malformed response: {notTheExpectedJson}"
  | .empty request => s!"empty response to {request}"
  | .unexpected expected got => s!"expected '{expected}' response, got '{got}'"

end ResponseFault

namespace ConfigFault

def message : ConfigFault → String
  | .tooManyTools count => s!"tool count {count} exceeds maximum of {maxToolCount}"
  | .fileTooLarge path => s!"{path} exceeds maximum size of {maxFileSize} bytes"
  | .noDirectory => "Could not determine config directory"
  | .cannotCreateDirectory cause => s!"Failed to create config directory: {cause.message}"
  | .unreadableSettings => s!"Failed to parse settings JSON: {notTheExpectedJson}"
  | .other text => text

end ConfigFault

namespace Error

def message : Error Float → String
  | .outOfRange tool count => s!"Tool index {tool} out of range (printer has {count} tools)"
  | .invalidProfile cause => s!"Invalid profile: {cause.message}"
  | .invalidSpool cause => s!"Invalid spool: {cause.message}"
  | .invalidSetting key cause => s!"Invalid value for setting {key}: {cause.message}"
  | .backend cause => s!"Backend request failed: {cause.message}"
  | .backendResponse cause => s!"Unexpected backend response: {cause.message}"
  | .file cause => s!"I/O error: {cause.message}"
  | .fileRead path cause => s!"Failed to read file {path}: {cause.message}"
  | .fileWrite path cause => s!"Failed to write file {path}: {cause.message}"
  | .config cause => s!"Configuration error: {cause.message}"
  | .jsonParse => s!"Failed to parse JSON: {notTheExpectedJson}"
  | .generic text => text

/-- The fault of a file that lies behind an error. -/
def fileFault? : Error α → Option FileFault
  | .file cause => some cause
  | .fileRead _ cause => some cause
  | .fileWrite _ cause => some cause
  | _ => none

def isOutOfRange : Error α → Bool
  | .outOfRange _ _ => true
  | _ => false

end Error

/-! ## Checks that end in an error -/

/-- An entry is checked before it is stored. -/
def Profile.accept [Scalar α] (p : Profile α) : Except (Error α) Unit :=
  p.check.mapError .invalidProfile

def Spool.accept [Scalar α] (s : Spool α) : Except (Error α) Unit :=
  s.check.mapError .invalidSpool

/-- The tool count that a printer reports. -/
def checkToolCount (count : Nat) : Except (Error α) Nat :=
  if maxToolCount < count then .error (.config (.tooManyTools count)) else .ok count

end Filament
