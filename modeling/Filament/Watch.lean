import Filament.Job
import Filament.Notice
import Filament.Registry
import Filament.Settings.Basic

/-!
The watch over shortages.

A recompute compares what the loaded job needs of each tool with what is left on the tool's spool.
The host repeats its reports all the time, so a shortage is announced only where it is fresh: the
file is another one than at the last recompute, or the tool's spool or length is. One notice at most
is open; a new one replaces it.
-/

namespace Filament

/-- What decides whether a tool has to be looked at again. -/
structure Snapshot (α : Type) where
  spool : Option (Spool α)
  length : α

instance {α : Type} [BEq α] : BEq (Snapshot α) where
  beq a b := a.spool == b.spool && a.length == b.length

/-- Whether the notice about a shortage is open. -/
inductive WarningState where
  | idle
  | warned (id : Nat)
deriving DecidableEq, Repr

/-- What a recompute found: what each tool needs, the first tool with a fresh shortage, the notice
shown about it, and the notice taken down because no shortage is left. -/
structure Outcome (α : Type) where
  consumption : List (Consumption α)
  insufficientTool : Option Nat
  notice : Option Nat
  dismissed : Option Nat

variable {α ν : Type}

def Outcome.warned (o : Outcome α) : Bool := o.notice.isSome

namespace Snapshot

variable [Scalar α]

/-- What the job needs of every tool of the printer, in the order of the tools. -/
def all (registry : Registry α) (job : Job α) : List (Snapshot α) :=
  registry.slots.zipIdx.map fun s => { spool := s.1, length := job.lengthFor s.2 }

/-- The mass that the job needs of a tool, zero without a spool. -/
def required (s : Snapshot α) : α :=
  match s.spool with
  | some spool => spool.profile.mass s.length
  | none => Scalar.zero

/-- The spool holds less than the job needs of it. -/
def isShort (s : Snapshot α) : Bool :=
  match s.spool with
  | some spool => Scalar.lt spool.remaining (spool.profile.mass s.length)
  | none => false

def consumption (s : Snapshot α) (tool : Nat) : Consumption α where
  tool := tool
  length := s.length
  mass := s.required

end Snapshot

/-- The shell, the settings, and what the last recompute saw and found. -/
structure Watch (α ν : Type) where
  notifier : ν
  settings : Settings α
  state : WarningState
  file : Option String
  snapshots : List (Snapshot α)
  consumption : List (Consumption α)

namespace Watch

def start (notifier : ν) (settings : Settings α) : Watch α ν where
  notifier := notifier
  settings := settings
  state := .idle
  file := none
  snapshots := []
  consumption := []

/-- The shell closed a notice. -/
def noticeClosed (w : Watch α ν) (id : Nat) : Watch α ν :=
  if w.state = .warned id then { w with state := .idle } else w

/-- Whether a tool has to be looked at, with `file` as the loaded file. -/
def isFresh [BEq α] (w : Watch α ν) (file : Option String) (tool : Nat) (s : Snapshot α) : Bool :=
  file != w.file || !(w.snapshots[tool]? == some s)

/-- The first tool with a fresh shortage. -/
def freshShortage? [Scalar α] (w : Watch α ν) (file : Option String)
    (snapshots : List (Snapshot α)) : Option Nat :=
  (snapshots.zipIdx.find? fun s => w.isFresh file s.2 s.1 && s.1.isShort).map (·.2)

variable [Notifier ν]

/-- Shows the notice about a shortage, after the open one is handed over for removal. -/
def raise (w : Watch α ν) : Nat × Watch α ν :=
  let notifier :=
    match w.state with
    | .warned old => Notifier.retire old Notice.fadeDelay w.notifier
    | .idle => w.notifier
  let (id, notifier) := Notifier.post Notice.insufficientFilament notifier
  (id, { w with notifier, state := .warned id })

/-- Takes the open notice down, if there is one. -/
def dismiss (w : Watch α ν) : Option Nat × Watch α ν :=
  match w.state with
  | .warned id =>
    (some id,
      { w with notifier := Notifier.retire id Notice.fadeDelay w.notifier, state := .idle })
  | .idle => (none, w)

/-- What is done about the shortages found. Returns the notice shown and the notice taken down. -/
def respond (w : Watch α ν) (fresh : Option Nat) (anyShort : Bool) :
    (Option Nat × Option Nat) × Watch α ν :=
  if w.settings.enableWarning then
    match fresh with
    | some _ =>
      let (id, w) := w.raise
      ((some id, none), w)
    | none =>
      if !anyShort && w.settings.dismissResolvedWarning then
        let (id, w) := w.dismiss
        ((none, id), w)
      else ((none, none), w)
  else ((none, none), w)

/-- Looks at every tool again and remembers what it saw. -/
def recompute [Scalar α] (w : Watch α ν) (registry : Registry α) (job : Job α) :
    Outcome α × Watch α ν :=
  let snapshots := Snapshot.all registry job
  let fresh := w.freshShortage? job.file snapshots
  let consumption := snapshots.zipIdx.map fun s => s.1.consumption s.2
  let ((notice, dismissed), w) := w.respond fresh (snapshots.any Snapshot.isShort)
  ({ consumption, insufficientTool := fresh, notice, dismissed },
    { w with file := job.file, snapshots, consumption })

end Watch
end Filament
