import Filament.Backend
import Filament.Request
import Filament.Response

/-!
A backend behind a wire. Each call is one request: it is checked, sent, and its answer read. What
the backend stores is not known here, so the only state is that of the transport.
-/

namespace Filament

/-- A transport with states `τ`, which brings a request to the backend and its answer back. -/
class Transport (τ : Type) where
  exchange : Request Float → Action τ (Error Float) String

/-- A client that speaks over a transport. -/
structure Client (τ : Type) where
  transport : τ

namespace Client

variable {τ : Type} [Transport τ]

/-- The fault of an answer as an error of the call. -/
def unusable {γ : Type} (x : Except ResponseFault γ) : Except (Error Float) γ :=
  x.mapError .backendResponse

/-- Sends a request that is fit to be sent, and reads the answer. -/
def exchange (request : Request Float) :
    Action (Client τ) (Error Float) (Option (Response Float)) := do
  request.check.mapError request.refusal
  let body ← Action.on Client.transport (fun transport _ => { transport })
    (Transport.exchange request)
  unusable (Response.parse body)

/-- A request whose answer has to hold a response of a certain kind. -/
def ask {γ : Type} (request : Request Float)
    (read : Response Float → Except ResponseFault γ) : Action (Client τ) (Error Float) γ := do
  match ← exchange request with
  | some response => unusable (read response)
  | none => throw (.backendResponse (.empty request.typeName))

/-- A request that is answered with any response or none. -/
def order (request : Request Float) : Action (Client τ) (Error Float) Unit := do
  let _ ← exchange request

instance : Backend (Client τ) Float where
  listProfiles force := ask (.listProfiles force) Response.toProfiles
  addProfile profile := ask (.addProfile profile) Response.toProfile
  updateProfile id profile := ask (.updateProfile id profile) Response.toProfile
  deleteProfile id := order (.deleteProfile id)
  listSpools force := ask (.listSpools force) Response.toSpools
  addSpool spool := ask (.addSpool spool) Response.toSpool
  updateSpool id spool := ask (.updateSpool id spool) Response.toSpool
  deleteSpool id := order (.deleteSpool id)
  listSelections := ask .listSelections Response.toSelections
  updateSelection tool spool := ask (.updateSelection tool spool) Response.toSelection

end Client
end Filament
