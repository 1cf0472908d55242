import Filament.Proofs.Accepted
import Filament.Proofs.Responses

/-!
What a client makes of a request and of its answer.

A client has ten calls. Each stands for one request, which is sent once if it passes its check and
not at all otherwise. What comes of a call then lies with the transport: a fault of the transport is
the fault of the call, and a body has to hold what the call asks for (`call_over_transport`). An
order to delete takes any body that can be read.
-/

namespace Filament

/-! ## The calls -/

/-- What a client can be asked for, with the kind of value that it returns. -/
inductive ClientCall : Type → Type where
  | listProfiles (force : Bool) : ClientCall (List (Profile Float))
  | addProfile (profile : Profile Float) : ClientCall (Profile Float)
  | updateProfile (id : Nat) (profile : Profile Float) : ClientCall (Profile Float)
  | deleteProfile (id : Nat) : ClientCall Unit
  | listSpools (force : Bool) : ClientCall (List (Spool Float))
  | addSpool (spool : Spool Float) : ClientCall (Spool Float)
  | updateSpool (id : Nat) (spool : Spool Float) : ClientCall (Spool Float)
  | deleteSpool (id : Nat) : ClientCall Unit
  | listSelections : ClientCall (List (Selection Float))
  | updateSelection (tool : Nat) (spool : Option Nat) : ClientCall (Selection Float)

namespace ClientCall

variable {γ : Type}

/-- Makes the call. -/
def perform {β : Type} [Backend β Float] : ClientCall γ → Action β (Error Float) γ
  | .listProfiles force => Backend.listProfiles force
  | .addProfile profile => Backend.addProfile profile
  | .updateProfile id profile => Backend.updateProfile id profile
  | .deleteProfile id => Backend.deleteProfile id
  | .listSpools force => Backend.listSpools force
  | .addSpool spool => Backend.addSpool spool
  | .updateSpool id spool => Backend.updateSpool id spool
  | .deleteSpool id => Backend.deleteSpool id
  | .listSelections => Backend.listSelections
  | .updateSelection tool spool => Backend.updateSelection tool spool

/-- The request that a call stands for. -/
def request : ClientCall γ → Request Float
  | .listProfiles force => .listProfiles force
  | .addProfile profile => .addProfile profile
  | .updateProfile id profile => .updateProfile id profile
  | .deleteProfile id => .deleteProfile id
  | .listSpools force => .listSpools force
  | .addSpool spool => .addSpool spool
  | .updateSpool id spool => .updateSpool id spool
  | .deleteSpool id => .deleteSpool id
  | .listSelections => .listSelections
  | .updateSelection tool spool => .updateSelection tool spool

/-- The error of a call whose request is refused. Lists and orders to delete are never refused. -/
def refusal? : ClientCall γ → Option (Invalid Float → Error Float)
  | .addProfile _ | .updateProfile _ _ => some .invalidProfile
  | .addSpool _ | .updateSpool _ _ => some .invalidSpool
  | .updateSelection _ _ => some fun cause => .backend (.refused cause)
  | .listProfiles _ | .deleteProfile _ | .listSpools _ | .deleteSpool _ | .listSelections => none

/-- The response that gives a value to the call; none for an order to delete, which takes any
response. -/
def response? : ClientCall γ → Option (γ → Response Float)
  | .listProfiles _ => some .profiles
  | .addProfile _ | .updateProfile _ _ => some .profile
  | .listSpools _ => some .spools
  | .addSpool _ | .updateSpool _ _ => some .spool
  | .listSelections => some .selections
  | .updateSelection _ _ => some .selection
  | .deleteProfile _ | .deleteSpool _ => none

/-- The body gives the value to the call. An order to delete is answered by an empty body or any
response. -/
def Answers (c : ClientCall γ) (body : String) (v : γ) : Prop :=
  match c.response? with
  | some response => Response.parse body = .ok (some (response v))
  | none => ∃ r, Response.parse body = .ok r

/-- Why a body gives no value to the call: it cannot be read, it is empty, or it has another key. -/
inductive Fails (c : ClientCall γ) (body : String) : ResponseFault → Prop where
  | unreadable {fault : ResponseFault} (h : Response.parse body = .error fault) : c.Fails body fault
  | empty (h : Response.parse body = .ok none) : c.Fails body (.empty c.request.typeName)
  | other {r : Response Float} {expected : String} (h : Response.parse body = .ok (some r))
      (hne : expected ≠ r.kind) : c.Fails body (.unexpected expected r.kind)

theorem refusal?_eq_some {c : ClientCall γ} {cause : Invalid Float}
    (h : c.request.check = .error cause) : c.refusal? = some c.request.refusal := by
  cases c <;> first | rfl | cases h

end ClientCall

/-! ## Reading a response -/

namespace Response

variable {γ : Type}

/-- `read` takes the responses that `response` makes, and names the kind of all others as the
fault. -/
structure Takes (read : Response Float → Except ResponseFault γ)
    (response : γ → Response Float) : Prop where
  ok_iff : ∀ r v, read r = .ok v ↔ r = response v
  other : ∀ r, (∀ v, r ≠ response v) →
    ∃ expected, expected ≠ r.kind ∧ read r = .error (.unexpected expected r.kind)

theorem takes_toProfiles : Takes toProfiles profiles where
  ok_iff r v := by cases r <;> simp [toProfiles]
  other r h := by cases r <;> simp_all [toProfiles, kind]

theorem takes_toProfile : Takes toProfile profile where
  ok_iff r v := by cases r <;> simp [toProfile]
  other r h := by cases r <;> simp_all [toProfile, kind]

theorem takes_toSpools : Takes toSpools spools where
  ok_iff r v := by cases r <;> simp [toSpools]
  other r h := by cases r <;> simp_all [toSpools, kind]

theorem takes_toSpool : Takes toSpool spool where
  ok_iff r v := by cases r <;> simp [toSpool]
  other r h := by cases r <;> simp_all [toSpool, kind]

theorem takes_toSelections : Takes toSelections selections where
  ok_iff r v := by cases r <;> simp [toSelections]
  other r h := by cases r <;> simp_all [toSelections, kind]

theorem takes_toSelection : Takes toSelection selection where
  ok_iff r v := by cases r <;> simp [toSelection]
  other r h := by cases r <;> simp_all [toSelection, kind]

end Response

/-! ## One request -/

namespace Client

variable {γ τ : Type} [Transport τ] {request : Request Float}

/-- The operation is the request and what `value` makes of the response to it. -/
structure Sends (x : Action (Client τ) (Error Float) γ) (request : Request Float)
    (value : Option (Response Float) → Except ResponseFault γ) : Prop where
  refused : ∀ cause, request.check = .error cause → ∀ client,
    x.run client = (.error (request.refusal cause), client)
  sent : request.check = .ok () → ∀ client, x.run client =
    match (Transport.exchange request).run client.transport with
    | (.error e, t) => (.error e, { transport := t })
    | (.ok body, t) => (unusable (Response.parse body >>= value), { transport := t })

theorem sends_bind {next : Option (Response Float) → Action (Client τ) (Error Float) γ}
    {value : Option (Response Float) → Except ResponseFault γ}
    (hnext : ∀ r client, (next r).run client = (unusable (value r), client)) :
    Sends (exchange request >>= next) request value where
  refused cause h client := by rw [Action.run_bind, run_exchange_of_error h]
  sent h client := by
    rw [Action.run_bind, run_exchange_of_ok h]
    obtain ⟨answer, t⟩ := (Transport.exchange request).run client.transport
    cases answer with
    | error e => rfl
    | ok body =>
      dsimp only
      cases Response.parse body with
      | error fault => rfl
      | ok r => exact hnext r _

/-- The value in a response that a request needs. -/
def needed (request : Request Float) (read : Response Float → Except ResponseFault γ) :
    Option (Response Float) → Except ResponseFault γ
  | some r => read r
  | none => .error (.empty request.typeName)

theorem sends_ask (request : Request Float) (read : Response Float → Except ResponseFault γ) :
    Sends (τ := τ) (ask request read) request (needed request read) := by
  refine sends_bind fun r client => ?_
  cases r <;> rfl

theorem sends_order (request : Request Float) :
    Sends (τ := τ) (order request) request fun _ => .ok () :=
  sends_bind fun _ _ => rfl

end Client

/-! ## All calls -/

namespace ClientCall

open Client Response

variable {γ τ : Type} [Transport τ]

/-- `value` makes of the response to the call what the call returns. -/
structure Gives (c : ClientCall γ)
    (value : Option (Response Float) → Except ResponseFault γ) : Prop where
  ok_iff : ∀ body v, (parse body >>= value) = .ok v ↔ c.Answers body v
  fails : ∀ body, (∀ v, ¬c.Answers body v) → ∃ fault, c.Fails body fault ∧ (parse body >>= value) =
    .error fault

theorem gives_needed {c : ClientCall γ} {read : Response Float → Except ResponseFault γ}
    {response : γ → Response Float} (hresponse : c.response? = some response)
    (h : Takes read response) :
    c.Gives (needed c.request read) where
  ok_iff body v := by
    unfold Answers
    rw [hresponse, bind_eq_ok]
    constructor
    · rintro ⟨r, hr, hread⟩
      cases r with
      | none => cases hread
      | some r => rw [hr, (h.ok_iff r v).mp hread]
    · exact fun hv => ⟨some (response v), hv, (h.ok_iff _ v).mpr rfl⟩
  fails body hnone := by
    unfold Answers at hnone
    rw [hresponse] at hnone
    cases hparse : parse body with
    | error fault => exact ⟨fault, .unreadable hparse, rfl⟩
    | ok r =>
      cases r with
      | none => exact ⟨_, .empty hparse, rfl⟩
      | some r =>
        obtain ⟨expected, hne, hread⟩ := h.other r fun v hv => hnone v (by rw [hparse, hv])
        exact ⟨_, .other hparse hne, hread⟩

theorem gives_anything {c : ClientCall Unit} (hresponse : c.response? = none) :
    c.Gives fun _ => .ok () where
  ok_iff body v := by
    unfold Answers
    rw [hresponse, bind_eq_ok]
    simp
  fails body hnone := by
    unfold Answers at hnone
    rw [hresponse] at hnone
    cases hparse : parse body with
    | error fault => exact ⟨fault, .unreadable hparse, rfl⟩
    | ok r => exact absurd ⟨r, hparse⟩ (hnone ())

theorem exists_sends (c : ClientCall γ) :
    ∃ value, Sends (τ := τ) c.perform c.request value ∧ c.Gives value := by
  cases c with
  | listProfiles force =>
    exact ⟨_, sends_ask (.listProfiles force) toProfiles, gives_needed rfl takes_toProfiles⟩
  | addProfile profile =>
    exact ⟨_, sends_ask (.addProfile profile) toProfile, gives_needed rfl takes_toProfile⟩
  | updateProfile id profile =>
    exact ⟨_, sends_ask (.updateProfile id profile) toProfile, gives_needed rfl takes_toProfile⟩
  | deleteProfile id => exact ⟨_, sends_order (.deleteProfile id), gives_anything rfl⟩
  | listSpools force =>
    exact ⟨_, sends_ask (.listSpools force) toSpools, gives_needed rfl takes_toSpools⟩
  | addSpool spool => exact ⟨_, sends_ask (.addSpool spool) toSpool, gives_needed rfl takes_toSpool⟩
  | updateSpool id spool =>
    exact ⟨_, sends_ask (.updateSpool id spool) toSpool, gives_needed rfl takes_toSpool⟩
  | deleteSpool id => exact ⟨_, sends_order (.deleteSpool id), gives_anything rfl⟩
  | listSelections =>
    exact ⟨_, sends_ask .listSelections toSelections, gives_needed rfl takes_toSelections⟩
  | updateSelection tool spool =>
    exact ⟨_, sends_ask (.updateSelection tool spool) toSelection,
      gives_needed rfl takes_toSelection⟩

/-- A call whose request fails its check sends nothing and fails for that cause. Else exactly its
request is sent. The call then fails as the transport does, or returns the value that the body
gives, or fails since the body gives none. -/
theorem call_over_transport (c : ClientCall γ) (client : Client (Tapped τ)) :
    (∀ cause, c.request.check = .error cause →
      ∃ refusal, c.refusal? = some refusal ∧
        c.perform.run client = (.error (refusal cause), client)) ∧
    (c.request.check = .ok () →
      let answer := (Transport.exchange c.request).run client.transport.transport
      let result := (c.perform.run client).1
      (c.perform.run client).2 =
        { transport := { transport := answer.2, sent := client.sent ++ [c.request] } } ∧
      (∀ e, answer.1 = .error e → result = .error e) ∧
      ∀ body, answer.1 = .ok body →
        (∀ v, result = .ok v ↔ c.Answers body v) ∧
        ((∀ v, ¬c.Answers body v) →
          ∃ fault, c.Fails body fault ∧ result = .error (.backendResponse fault))) := by
  obtain ⟨value, hsends, hgives⟩ := c.exists_sends (τ := Tapped τ)
  refine ⟨fun cause hcheck => ?_, fun hcheck => ?_⟩
  · exact ⟨c.request.refusal, refusal?_eq_some hcheck, hsends.refused cause hcheck client⟩
  · rw [hsends.sent hcheck client]
    have htapped : (Transport.exchange c.request).run client.transport =
        let answer := (Transport.exchange c.request).run client.transport.transport
        (answer.1, { transport := answer.2, sent := client.sent ++ [c.request] }) := rfl
    rw [htapped]
    generalize (Transport.exchange c.request).run client.transport.transport = answer
    obtain ⟨answer, t⟩ := answer
    cases answer with
    | error e =>
      refine ⟨rfl, fun e' he => ?_, fun body hbody => nomatch hbody⟩
      cases he
      rfl
    | ok body =>
      refine ⟨rfl, fun e he => (nomatch he), fun body' hbody => ?_⟩
      cases hbody
      dsimp only
      refine ⟨fun v => mapError_eq_ok.trans (hgives.ok_iff body v), fun hnone => ?_⟩
      obtain ⟨fault, hfails, hfault⟩ := hgives.fails body hnone
      refine ⟨fault, hfails, ?_⟩
      rw [hfault]
      rfl

/-- An answer that clears the selection of the fourth tool. -/
def clearedBody : String := (Response.selection { tool := 3, spool := none }).toJson.compact

theorem parse_clearedBody :
    parse clearedBody = .ok (some (.selection { tool := 3, spool := none })) :=
  parse_compact ⟨(by decide : 3 ≤ Text.maxWord), nofun⟩

/-- The same answer to four calls: it is the answer to one of them and no other, an order to delete
takes it, and a tool that no request may name is not sent. -/
theorem call_over_transport_cleared :
    let client : Client (Tapped Canned) :=
      { transport := { transport := { answer := .ok clearedBody }, sent := [] } }
    ((updateSelection 3 none).request.check = .ok () ∧
      ((updateSelection 3 none).perform.run client).1 = .ok { tool := 3, spool := none } ∧
      ((updateSelection 3 none).perform.run client).2.sent = [.updateSelection 3 none]) ∧
    ((deleteSpool 7).request.check = .ok () ∧ ((deleteSpool 7).perform.run client).1 = .ok ()) ∧
    (listSelections.request.check = .ok () ∧
      ∃ fault, (listSelections.perform.run client).1 = .error (.backendResponse fault)) ∧
    (updateSelection 64 none).request.check = .error .toolIndex ∧
      (updateSelection 64 none).perform.run client =
        (.error (.backend (.refused .toolIndex)), client) := by
  intro client
  obtain ⟨hstate, -, hanswer⟩ := (call_over_transport (updateSelection 3 none) client).2 rfl
  obtain ⟨-, -, hdeleted⟩ := (call_over_transport (deleteSpool 7) client).2 rfl
  obtain ⟨-, -, hlisted⟩ := (call_over_transport listSelections client).2 rfl
  obtain ⟨refusal, hrefusal, hrefused⟩ :=
    (call_over_transport (updateSelection 64 none) client).1 .toolIndex rfl
  refine ⟨⟨rfl, ((hanswer clearedBody rfl).1 _).mpr parse_clearedBody, ?_⟩,
    ⟨rfl, ((hdeleted clearedBody rfl).1 ()).mpr ⟨_, parse_clearedBody⟩⟩, ⟨rfl, ?_⟩, rfl, ?_⟩
  · rw [hstate]
    rfl
  · have hother : ∀ l, ¬listSelections.Answers clearedBody l := by
      intro l hl
      cases parse_clearedBody.symm.trans hl
    obtain ⟨fault, -, hfault⟩ := (hlisted clearedBody rfl).2 hother
    exact ⟨fault, hfault⟩
  · obtain rfl := Option.some.inj hrefusal
    exact hrefused

end ClientCall
end Filament
