import Std.Data.TreeMap
import Filament.Backend

/-!
A backend in memory.

Entries are kept by id. The counter of ids stays above every id ever given, and adding fails once it
would pass the largest word. Every change to a table is announced by a message, which waits in the
outbox until it is taken. A call that fails changes nothing.
-/

namespace Filament

variable {α : Type}

/-- The selections name spools by id; a tool once cleared keeps an empty entry. The outbox holds the
messages not yet taken, oldest first. -/
structure Store (α : Type) where
  profiles : Std.TreeMap Nat (Profile α)
  spools : Std.TreeMap Nat (Spool α)
  selections : Std.TreeMap Nat (Option Nat)
  nextId : Nat
  outbox : List Message

namespace Store

def empty : Store α where
  profiles := ∅
  spools := ∅
  selections := ∅
  nextId := 0
  outbox := []

/-- A new id, none if the counter has come to its end. Ids start from one. -/
def allocate? (s : Store α) : Option (Nat × Store α) :=
  let id := max s.nextId 1
  if id < Text.maxWord then some (id, { s with nextId := id + 1 }) else none

/-! ## Seeds -/

/-- The id of a seed: its own, with the counter moved above it, or a new one. -/
def seedId? (s : Store α) (own : Option Nat) : Option (Nat × Store α) :=
  match own with
  | some id => some (id, { s with nextId := max s.nextId (min (id + 1) Text.maxWord) })
  | none => s.allocate?

/-- Stores a seed. One for which no id is left is passed over. -/
def seedProfile (s : Store α) (p : Profile α) : Store α :=
  match s.seedId? p.id with
  | some (id, s) => { s with profiles := s.profiles.insert id { p with id := some id } }
  | none => s

def seedSpool (s : Store α) (spool : Spool α) : Store α :=
  match s.seedId? spool.id with
  | some (id, s) => { s with spools := s.spools.insert id { spool with id := some id } }
  | none => s

/-- A store with the given entries and nothing selected. Profiles get their ids first. -/
def ofSeeds (profiles : List (Profile α)) (spools : List (Spool α)) : Store α :=
  spools.foldl seedSpool (profiles.foldl seedProfile empty)

/-! ## Calls -/

def announce (s : Store α) (table action : String) : Store α :=
  { s with outbox := s.outbox ++ [Message.dataChanged table action] }

/-- Takes the waiting messages out of the outbox. -/
def drain (s : Store α) : List Message × Store α := (s.outbox, { s with outbox := [] })

/-- The spool with an id, or none for no id. -/
def resolve (s : Store α) (id : Option Nat) : Option (Spool α) := id.bind fun id => s.spools[id]?

def allocate : Action (Store α) (Error α) Nat := do
  match (← get).allocate? with
  | some (id, s) => set s; return id
  | none => throw (.backend .noIdsLeft)

def listProfiles : Action (Store α) (Error α) (List (Profile α)) :=
  return (← get).profiles.values

def listSpools : Action (Store α) (Error α) (List (Spool α)) :=
  return (← get).spools.values

/-- The selections in the order of the tools, each with the spool as it is stored now. -/
def listSelections : Action (Store α) (Error α) (List (Selection α)) := do
  let s ← get
  return s.selections.toList.map fun e => { tool := e.1, spool := s.resolve e.2 }

/-- Selects a stored spool, or none, for a tool. -/
def updateSelection (tool : Nat) (id : Option Nat) :
    Action (Store α) (Error α) (Selection α) := do
  let s ← get
  if let some i := id then
    if !s.spools.contains i then throw (.backend (.noSpool i))
  set { s with selections := s.selections.insert tool id }
  return { tool, spool := s.resolve id }

/-- Removes a material, unless a spool is made of it. -/
def deleteProfile (id : Nat) : Action (Store α) (Error α) Unit := do
  let s ← get
  if s.spools.values.any fun spool => spool.profile.id == some id then
    throw (.backend (.profileInUse id))
  set ({ s with profiles := s.profiles.erase id }.announce "profiles" "delete")

/-- Removes a spool, also from the tools on which it is selected. -/
def deleteSpool (id : Nat) : Action (Store α) (Error α) Unit := do
  let s ← get
  let clear (selected : Option Nat) := if selected = some id then none else selected
  set ({ s with
    spools := s.spools.erase id
    selections := s.selections.map fun _ selected => clear selected }.announce "spools" "delete")

variable [Scalar α]

/-- Stores a material under a new id. -/
def addProfile (p : Profile α) : Action (Store α) (Error α) (Profile α) := do
  p.accept
  let id ← allocate
  let p := { p with id := some id }
  modify fun s => { s with profiles := s.profiles.insert id p }.announce "profiles" "add"
  return p

/-- Replaces a material, also in the spools that are made of it. -/
def updateProfile (id : Nat) (p : Profile α) : Action (Store α) (Error α) (Profile α) := do
  p.accept
  let s ← get
  if !s.profiles.contains id then throw (.backend (.noProfile id))
  let p := { p with id := some id }
  let refer (spool : Spool α) :=
    if spool.profile.id == some id then { spool with profile := p } else spool
  set ({ s with
    profiles := s.profiles.insert id p
    spools := s.spools.map fun _ spool => refer spool }.announce "profiles" "update")
  return p

/-- Stores a spool under a new id. -/
def addSpool (spool : Spool α) : Action (Store α) (Error α) (Spool α) := do
  spool.accept
  let id ← allocate
  let spool := { spool with id := some id }
  modify fun s => { s with spools := s.spools.insert id spool }.announce "spools" "add"
  return spool

/-- Replaces a spool. -/
def updateSpool (id : Nat) (spool : Spool α) : Action (Store α) (Error α) (Spool α) := do
  spool.accept
  let s ← get
  if !s.spools.contains id then throw (.backend (.noSpool id))
  let spool := { spool with id := some id }
  set ({ s with spools := s.spools.insert id spool }.announce "spools" "update")
  return spool

instance : Backend (Store α) α where
  listProfiles _ := listProfiles
  addProfile := addProfile
  updateProfile := updateProfile
  deleteProfile := deleteProfile
  listSpools _ := listSpools
  addSpool := addSpool
  updateSpool := updateSpool
  deleteSpool := deleteSpool
  listSelections := listSelections
  updateSelection := updateSelection

end Store
end Filament
