import Filament.Error
import Filament.Json.Printer
import Filament.Json.Reader
import Filament.Spool.Record
import Filament.Text.Blank

/-!
Responses of the backend. A response is an object with one field, whose name tells what it holds.
-/

namespace Filament

inductive Response (α : Type) where
  | profiles (l : List (Profile α))
  | profile (p : Profile α)
  | spools (l : List (Spool α))
  | spool (s : Spool α)
  | selections (l : List (Selection α))
  | selection (s : Selection α)

namespace Response

variable {α : Type}

/-- The name of the field on the wire. -/
def kind : Response α → String
  | .profiles _ => "profiles"
  | .profile _ => "profile"
  | .spools _ => "spools"
  | .spool _ => "spool"
  | .selections _ => "selections"
  | .selection _ => "selection"

def payload : Response Float → Json
  | .profiles l => .ofList Profile.toJson l
  | .profile p => p.toJson
  | .spools l => .ofList Spool.toJson l
  | .spool s => s.toJson
  | .selections l => .ofList Selection.toJson l
  | .selection s => s.toJson

def toJson (r : Response Float) : Json := .ofFields [(r.kind, r.payload)]

variable [Scalar α]

/-- The response of the given kind with the given payload. -/
def ofPayload? (number : Json → Option α) (kind : String) (payload : Json) :
    Option (Response α) :=
  match kind with
  | "profiles" => (Json.list? (Profile.ofJson? number) payload).map .profiles
  | "profile" => (Profile.ofJson? number payload).map .profile
  | "spools" => (Json.list? (Spool.ofJson? number) payload).map .spools
  | "spool" => (Spool.ofJson? number payload).map .spool
  | "selections" => (Json.list? (Selection.ofJson? number) payload).map .selections
  | "selection" => (Selection.ofJson? number payload).map .selection
  | _ => none

def ofJson? (number : Json → Option α) : Json → Option (Response α)
  | .object [(some kind, payload)] => ofPayload? number kind payload
  | _ => none

/-- What a body without blanks around it holds. A body of no characters, or of the two braces alone,
holds no response. -/
def ofTrimmed (body : List Char) : Except ResponseFault (Option (Response Float)) :=
  if body.isEmpty || body == ['\x7b', '\x7d'] then .ok none
  else
    match (Json.ofChars? body).bind (ofJson? Json.float?) with
    | some r => .ok (some r)
    | none => .error .malformed

/-- The response that a body holds. A request to delete is answered without one. -/
def parse (body : String) : Except ResponseFault (Option (Response Float)) :=
  ofTrimmed (Text.trimChars body.toList)

/-! ## The payload of an expected kind -/

def toProfiles : Response α → Except ResponseFault (List (Profile α))
  | .profiles l => .ok l
  | r => .error (.unexpected "profiles" r.kind)

def toProfile : Response α → Except ResponseFault (Profile α)
  | .profile p => .ok p
  | r => .error (.unexpected "profile" r.kind)

def toSpools : Response α → Except ResponseFault (List (Spool α))
  | .spools l => .ok l
  | r => .error (.unexpected "spools" r.kind)

def toSpool : Response α → Except ResponseFault (Spool α)
  | .spool s => .ok s
  | r => .error (.unexpected "spool" r.kind)

def toSelections : Response α → Except ResponseFault (List (Selection α))
  | .selections l => .ok l
  | r => .error (.unexpected "selections" r.kind)

def toSelection : Response α → Except ResponseFault (Selection α)
  | .selection s => .ok s
  | r => .error (.unexpected "selection" r.kind)

end Response
end Filament
