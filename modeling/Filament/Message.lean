import Filament.Json.Fields

/-!
What the backend pushes to its clients, and its JSON.
-/

namespace Filament

/-- Kinds of messages. Clients pass over those that they do not know. -/
inductive MessageKind where
  | dataChanged
  | unknown
deriving DecidableEq, Repr

/-- Which table of the backend changed, and how. -/
structure DataChange where
  table : String
  action : String
deriving DecidableEq, Repr

structure Message where
  kind : MessageKind
  data : Option DataChange
deriving DecidableEq, Repr

namespace MessageKind

def name : MessageKind → String
  | .dataChanged => "data_changed"
  | .unknown => "unknown"

def ofName (name : String) : MessageKind :=
  if name = "data_changed" then .dataChanged else .unknown

/-- A kind is its name, alone or as the only field of an object whose value is null. -/
def ofJson? : Json → Option MessageKind
  | .string (some s) => some (ofName s)
  | .object [(some s, .null)] => some (ofName s)
  | _ => none

end MessageKind

namespace DataChange

def toJson (c : DataChange) : Json :=
  .ofFields [("table", .ofString c.table), ("action", .ofString c.action)]

def ofJson? (j : Json) : Option DataChange := do
  let f ← Json.Fields.ofJson? ["table", "action"] j
  return {
    table := ← f.required "table" Json.string?
    action := ← f.required "action" Json.string? }

end DataChange

namespace Message

def dataChanged (table action : String) : Message where
  kind := .dataChanged
  data := some { table, action }

/-- The lists that a client keeps are out of date. -/
def requiresRefresh (m : Message) : Bool := m.kind = .dataChanged

def toJson (m : Message) : Json :=
  .ofFields [("type", .ofString m.kind.name), ("data", .ofOption DataChange.toJson m.data)]

def ofJson? (j : Json) : Option Message := do
  let f ← Json.Fields.ofJson? ["type", "data"] j
  return {
    kind := ← f.required "type" MessageKind.ofJson?
    data := ← f.withDefault "data" none (Json.option? DataChange.ofJson?) }

end Message
end Filament
