import Filament.Error
import Filament.Spool.Record

/-!
Requests to the backend: what they ask for, and how they are put on the wire as a method, a path, a
query and a body.
-/

namespace Filament

inductive Method where
  | get
  | post
  | patch
  | delete
deriving DecidableEq, Repr

/-- `force` asks for a list past every cache. -/
inductive Request (α : Type) where
  | listProfiles (force : Bool)
  | getProfile (id : Nat)
  | addProfile (profile : Profile α)
  | updateProfile (id : Nat) (profile : Profile α)
  | deleteProfile (id : Nat)
  | listSpools (force : Bool)
  | getSpool (id : Nat)
  | addSpool (spool : Spool α)
  | updateSpool (id : Nat) (spool : Spool α)
  | deleteSpool (id : Nat)
  | listSelections
  | updateSelection (tool : Nat) (spool : Option Nat)

namespace Method

def name : Method → String
  | .get => "GET"
  | .post => "POST"
  | .patch => "PATCH"
  | .delete => "DELETE"

end Method

/-! ## Bodies -/

/-- A reference to a spool. No id stands for no spool. -/
structure SpoolRef where
  id : Option Nat
deriving DecidableEq, Repr

/-- The body of a change to a selection. -/
structure SelectionUpdate where
  tool : Nat
  spool : SpoolRef
deriving DecidableEq, Repr

namespace SpoolRef

def toJson (r : SpoolRef) : Json := .ofFields [("id", .ofOption .ofNat r.id)]

def ofJson? (j : Json) : Option SpoolRef := do
  let f ← Json.Fields.ofJson? ["id"] j
  return { id := ← f.nullable "id" Json.natural? }

end SpoolRef

namespace SelectionUpdate

def toJson (u : SelectionUpdate) : Json :=
  .ofFields [("tool", .ofNat u.tool), ("spool", u.spool.toJson)]

def ofJson? (j : Json) : Option SelectionUpdate := do
  let f ← Json.Fields.ofJson? ["tool", "spool"] j
  return {
    tool := ← f.required "tool" Json.natural?
    spool := ← f.required "spool" SpoolRef.ofJson? }

end SelectionUpdate

namespace Request

variable {α : Type}

/-- The path of the backend plugin below the root of the host's interface. -/
def root : String := "plugin/filamentmanager"

def typeName : Request α → String
  | .listProfiles _ => "ListProfiles"
  | .getProfile _ => "GetProfile"
  | .addProfile _ => "AddProfile"
  | .updateProfile _ _ => "UpdateProfile"
  | .deleteProfile _ => "DeleteProfile"
  | .listSpools _ => "ListSpools"
  | .getSpool _ => "GetSpool"
  | .addSpool _ => "AddSpool"
  | .updateSpool _ _ => "UpdateSpool"
  | .deleteSpool _ => "DeleteSpool"
  | .listSelections => "ListSelections"
  | .updateSelection _ _ => "UpdateSelection"

def method : Request α → Method
  | .listProfiles _ | .getProfile _ | .listSpools _ | .getSpool _ | .listSelections => .get
  | .addProfile _ | .addSpool _ => .post
  | .updateProfile _ _ | .updateSpool _ _ | .updateSelection _ _ => .patch
  | .deleteProfile _ | .deleteSpool _ => .delete

/-- The path of a table. -/
def tablePath (table : String) : String := root ++ "/" ++ table

/-- The path of one entry of a table. -/
def entryPath (table : String) (id : Nat) : String := tablePath table ++ "/" ++ Text.ofNat id

def path : Request α → String
  | .listProfiles _ | .addProfile _ => tablePath "profiles"
  | .getProfile id | .updateProfile id _ | .deleteProfile id => entryPath "profiles" id
  | .listSpools _ | .addSpool _ => tablePath "spools"
  | .getSpool id | .updateSpool id _ | .deleteSpool id => entryPath "spools" id
  | .listSelections => tablePath "selections"
  | .updateSelection tool _ => entryPath "selections" tool

def query : Request α → List (String × String)
  | .listProfiles true | .listSpools true => [("force", "true")]
  | _ => []

def body? : Request Float → Option Json
  | .addProfile profile | .updateProfile _ profile => some (.ofFields [("profile", profile.toJson)])
  | .addSpool spool | .updateSpool _ spool => some (.ofFields [("spool", spool.toJson)])
  | .updateSelection tool spool =>
    some (.ofFields [("selection", SelectionUpdate.toJson { tool, spool := { id := spool } })])
  | _ => none

/-- What a request has to satisfy before it is sent. -/
def check [Scalar α] : Request α → Except (Invalid α) Unit
  | .addProfile profile => profile.check
  | .updateProfile id profile => do
    checkSameId id profile.id
    profile.check
  | .addSpool spool => spool.check
  | .updateSpool id spool => do
    checkSameId id spool.id
    spool.check
  | .updateSelection tool _ => checkToolIndex tool
  | _ => .ok ()

/-- The error of a request that is not fit to be sent. -/
def refusal (r : Request α) (cause : Invalid α) : Error α :=
  match r with
  | .addProfile _ | .updateProfile _ _ => .invalidProfile cause
  | .addSpool _ | .updateSpool _ _ => .invalidSpool cause
  | _ => .backend (.refused cause)

end Request
end Filament
