import Filament.Json.Basic

/-!
Notices to the user, and the shell that draws them.
-/

namespace Filament

inductive Severity where
  | info
  | warning
  | error
deriving DecidableEq, Repr

namespace Severity

def name : Severity → String
  | .info => "info"
  | .warning => "warning"
  | .error => "error"

end Severity

/-- A sticky notice stays until the user or the program closes it. -/
structure Notice where
  title : String
  text : String
  severity : Severity
  sticky : Bool
deriving DecidableEq, Repr

namespace Notice

/-- The notice about a spool that holds too little for the loaded job. -/
def insufficientFilament : Notice where
  title := "Insufficient filament"
  text := "The current print job needs more material than what's left on the selected spool."
  severity := .warning
  sticky := true

def toJson (n : Notice) : Json :=
  .ofFields [("title", .ofString n.title), ("text", .ofString n.text),
    ("severity", .ofString n.severity.name), ("sticky", .bool n.sticky)]

/-- How long a notice that is taken down stays visible, in milliseconds. -/
def fadeDelay : Nat := 1000

end Notice

/-- A shell with states `ν`. It gives each notice that it shows an id, and takes a notice down after
a delay. -/
class Notifier (ν : Type) where
  post : Notice → ν → Nat × ν
  retire : (id delay : Nat) → ν → ν

/-- What became of a notice. -/
inductive NoticeRecord where
  | shown (id : Nat) (notice : Notice)
  | removed (id delay : Nat)
deriving DecidableEq, Repr

def NoticeRecord.toJson : NoticeRecord → Json
  | .shown id notice =>
    .ofFields [("kind", .ofString "shown"), ("id", .ofNat id), ("notice", notice.toJson)]
  | .removed id delay =>
    .ofFields [("kind", .ofString "removed"), ("id", .ofNat id), ("delay_ms", .ofNat delay)]

/-- A shell that draws nothing and keeps the record, oldest first. Its notices count from one. -/
structure NoticeLog where
  records : List NoticeRecord
  nextId : Nat
deriving DecidableEq, Repr

namespace NoticeLog

def empty : NoticeLog where
  records := []
  nextId := 1

instance : Notifier NoticeLog where
  post notice log :=
    (log.nextId,
      { records := log.records ++ [.shown log.nextId notice], nextId := log.nextId + 1 })
  retire id delay log := { log with records := log.records ++ [.removed id delay] }

/-- The ids of the notices shown, in their order. -/
def shownIds (log : NoticeLog) : List Nat :=
  log.records.filterMap fun
    | .shown id _ => some id
    | .removed _ _ => none

end NoticeLog
end Filament
