import Filament.Client
import Filament.Proofs.BookedMass
import Filament.Proofs.Refusal

/-!
The requests that reach the transport.

A client checks each request before it sends it, and a refused one never leaves. The accounting
makes no request that would be refused. A tool that the printer has is below the most tools a
printer may have, which is what a selection request may name (`checkToolIndex_eq_ok_iff`), and a
spool stays valid when filament is booked on it (`Usage.check_of_book?`). So a selection is sent or
the tool is unknown, and all spools that a print used filament of are sent
(`requests_reach_transport`), whatever the transport answers.
-/

namespace Filament

variable {τ : Type}

/-! ## A record of what is sent -/

/-- A transport with the requests that reached it, oldest first. -/
structure Tapped (τ : Type) where
  transport : τ
  sent : List (Request Float)

variable [Transport τ]

instance : Transport (Tapped τ) where
  exchange request := Action.ofFun fun t =>
    let (answer, transport) := (Transport.exchange request).run t.transport
    (answer, { transport, sent := t.sent ++ [request] })

namespace Client

variable {request : Request Float}

theorem run_exchange_of_error {cause : Invalid Float} (h : request.check = .error cause)
    (client : Client τ) :
    (exchange request).run client = (.error (request.refusal cause), client) := by
  unfold exchange
  rw [Action.run_bind, Action.run_liftExcept, h]
  rfl

theorem run_exchange_of_ok (h : request.check = .ok ()) (client : Client τ) :
    (exchange request).run client =
      match (Transport.exchange request).run client.transport with
      | (.error e, t) => (.error e, { transport := t })
      | (.ok body, t) => (unusable (Response.parse body), { transport := t }) := by
  unfold exchange
  rw [Action.run_bind, Action.run_liftExcept, mapError_eq_ok.mpr h]
  dsimp only
  rw [Action.run_bind, Action.run_on]
  obtain ⟨answer, t⟩ := (Transport.exchange request).run client.transport
  cases answer <;> rfl

theorem run_exchange_snd (h : request.check = .ok ()) (client : Client τ) :
    ((exchange request).run client).2 =
      { transport := ((Transport.exchange request).run client.transport).2 } := by
  rw [run_exchange_of_ok h]
  obtain ⟨answer, t⟩ := (Transport.exchange request).run client.transport
  cases answer <;> rfl

/-- Reading an answer sends nothing. -/
theorem run_ask {γ : Type} (request : Request Float)
    (read : Response Float → Except ResponseFault γ) (client : Client τ) :
    ((ask request read).run client).2 = ((exchange request).run client).2 := by
  unfold ask
  rw [Action.run_bind]
  cases (exchange request).run client with
  | mk answer after =>
    cases answer with
    | error e => rfl
    | ok response =>
      cases response with
      | none => rfl
      | some r => rfl

/-- The requests that reached the transport. -/
def sent (client : Client (Tapped τ)) : List (Request Float) := client.transport.sent

theorem sent_ask {γ : Type} (h : request.check = .ok ())
    (read : Response Float → Except ResponseFault γ) (client : Client (Tapped τ)) :
    ((ask request read).run client).2.sent = client.sent ++ [request] := by
  rw [run_ask, run_exchange_snd h]
  rfl

end Client

/-! ## Selecting a spool -/

theorem checkToolIndex_eq_ok_iff {tool : Nat} :
    (checkToolIndex tool : Except (Invalid Float) Unit) = .ok () ↔ tool < maxToolCount := by
  unfold checkToolIndex maxToolIndex maxToolCount
  by_cases hmax : 63 < tool
  · rw [if_pos hmax]
    simp only [reduceCtorEq, false_iff]
    omega
  · rw [if_neg hmax]
    simp only [true_iff]
    omega

/-- What is done with the answer of the backend does not reach the backend. -/
theorem Session.backend_select {ν : Type} [Notifier ν] {s : Session Float (Client τ) ν} {tool : Nat}
    (h : tool < s.accounting.registry.toolCount) (spool : Option Nat) :
    ((select tool spool).run s).2.backend =
      (Action.run (Backend.updateSelection tool spool) s.backend).2 := by
  rw [run_select_of_lt h, Action.run_bind, onBackend, Action.run_on]
  cases (Action.run (Backend.updateSelection tool spool) s.backend).1 with
  | error e => rfl
  | ok selection => rfl

/-! ## Booking a print -/

namespace Usage

/-- The request that stores the spool, if it has an id. -/
def request? (u : Usage Float) : Option (Request Float) :=
  u.spool.id.map fun id => .updateSpool id u.spool

theorem check_of_request? {u : Usage Float} (h : u.spool.check = .ok ()) {request : Request Float}
    (hrequest : u.request? = some request) : request.check = .ok () := by
  obtain ⟨id, hid, rfl⟩ := Option.map_eq_some_iff.mp hrequest
  have hsame : (checkSameId id u.spool.id : Except (Invalid Float) Unit) = .ok () := by
    rw [hid]
    exact if_pos rfl
  exact bind_unit_eq_ok.mpr ⟨hsame, h⟩

theorem sent_send {u : Usage Float} (h : u.spool.check = .ok ()) (client : Client (Tapped τ)) :
    (StateT.run (m := Id) u.send client).2.sent = client.sent ++ u.request?.toList := by
  unfold send request?
  cases hid : u.spool.id with
  | none => exact (List.append_nil _).symm
  | some id =>
    have hcheck : (Request.updateSpool id u.spool).check = .ok () :=
      check_of_request? h (by rw [request?, hid]; rfl)
    exact Client.sent_ask hcheck Response.toSpool client

theorem sent_sendAll {usage : List (Usage Float)} (h : ∀ u ∈ usage, u.spool.check = .ok ())
    (client : Client (Tapped τ)) :
    ((sendAll usage).run client).2.sent = client.sent ++ usage.filterMap request? := by
  show (StateT.run (m := Id) (usage.mapM send) client).2.sent = _
  induction usage generalizing client with
  | nil => exact (List.append_nil _).symm
  | cons u rest ih =>
    rw [mapM_send_cons, ih fun v hv => h v (List.mem_cons_of_mem u hv),
      sent_send (h u List.mem_cons_self), List.append_assoc]
    cases hrequest : u.request? with
    | none => simp [hrequest]
    | some request => simp [hrequest]

end Usage

/-! ## All requests -/

variable {ν : Type} [Notifier ν]

theorem Accounting.dispatch_toolCountChanged_iff {a : Accounting Float ν} {count : Nat} :
    (∃ e, ((dispatch (.toolCountChanged count)).run a).1 = .error e) ↔
      ∃ tool < count, (checkToolIndex tool : Except (Invalid Float) Unit) ≠ .ok () := by
  rw [exists_dispatch_error_iff]
  show (∃ e, (if maxToolCount < count then _ else none) = some e) ↔ _
  by_cases hmax : maxToolCount < count
  · rw [if_pos hmax]
    refine iff_of_true ⟨_, rfl⟩ ⟨maxToolCount, hmax, fun hok => ?_⟩
    exact Nat.lt_irrefl maxToolCount (checkToolIndex_eq_ok_iff.mp hok)
  · rw [if_neg hmax]
    refine iff_of_false (fun ⟨e, he⟩ => nomatch he) fun ⟨tool, htool, hrefused⟩ => ?_
    exact hrefused (checkToolIndex_eq_ok_iff.mpr (by omega))

/-- Selecting a spool on an accounting after any run fails since the printer does not have the tool,
with nothing sent, or the one request that is sent is fit to be sent. A tool count is refused
exactly if it counts a tool that a selection request may not name. When all selected spools are
valid and all masses that the lengths come to are numbers, the usage can be booked, every request to
store a spool of it is fit to be sent, and all of them are sent, whatever is answered. -/
theorem requests_reach_transport (shell : ν) (settings : Settings Float) (calls : List (Call Float))
    (tool : Nat) (spool : Option Nat) (client : Client (Tapped τ)) (r : Registry Float)
    (extrusion : List Float) (hcheck : ∀ s, some s ∈ r.slots → s.check = .ok ())
    (hmass : ∀ m ∈ mounted r.slots extrusion, (m.2.1.profile.mass m.2.2).isNaN = false) :
    let s : Session Float (Client (Tapped τ)) ν :=
      { accounting := (Accounting.start shell settings).after calls, backend := client }
    let count := s.accounting.registry.toolCount
    ((count ≤ tool ∧ (Session.select tool spool).run s = (.error (.outOfRange tool count), s)) ∨
      (tool < count ∧ (Request.updateSelection tool spool : Request Float).check = .ok () ∧
        ((Session.select tool spool).run s).2.backend.sent =
          client.sent ++ [.updateSelection tool spool])) ∧
    (∀ n, (∃ e, ((Accounting.dispatch (.toolCountChanged n)).run s.accounting).1 = .error e) ↔
      ∃ i < n, (Request.updateSelection i spool : Request Float).check ≠ .ok ()) ∧
    ∃ usage, Usage.bookAll? r.slots extrusion = some usage ∧
      (∀ u ∈ usage, ∀ request, u.request? = some request → request.check = .ok ()) ∧
      ((Usage.sendAll usage).run client).2.sent = client.sent ++
        usage.filterMap Usage.request? := by
  intro s count
  have hbound : count ≤ maxToolCount :=
    Accounting.after_induction (P := fun a => a.registry.toolCount ≤ maxToolCount)
      Accounting.toolCount_call (a := Accounting.start shell settings) (Nat.zero_le _) calls
  refine ⟨?_, fun n => Accounting.dispatch_toolCountChanged_iff, ?_⟩
  · by_cases hlt : tool < count
    · right
      have hrequest : (Request.updateSelection tool spool : Request Float).check = .ok () :=
        checkToolIndex_eq_ok_iff.mpr (Nat.lt_of_lt_of_le hlt hbound)
      refine ⟨hlt, hrequest, ?_⟩
      rw [Session.backend_select hlt]
      exact Client.sent_ask hrequest Response.toSelection client
    · left
      have hle : count ≤ tool := Nat.not_lt.mp hlt
      exact ⟨hle, Session.run_select_of_le hle spool⟩
  · obtain ⟨usage, hbook, hfrom⟩ := Usage.bookAll?_of_check hcheck extrusion
    have hvalid : ∀ u ∈ usage, u.spool.check = .ok () := by
      intro u hu
      obtain ⟨m, hm, hone⟩ := hfrom u hu
      exact (Usage.check_of_book? (hcheck m.2.1 (mem_mounted hm).1) (hmass m hm) hone).1
    refine ⟨usage, hbook, ?_, Usage.sent_sendAll hvalid client⟩
    intro u hu request hrequest
    exact Usage.check_of_request? (hvalid u hu) hrequest

/-- A transport that gives one answer to every request. -/
structure Canned where
  answer : Except (Error Float) String

instance : Transport Canned where
  exchange _ := do return ← (← get).answer

/-- A roll with an eighth of its filament used. -/
def startedRoll : Spool Float where
  id := some 4
  name := "Black"
  profile :=
    { id := some 1, vendor := "Acme", material := "PLA", density := 1.25, diameter := 1.75 }
  cost := 20
  weight := 1000
  used := 125
  tempOffset := 0

/-- A printer with two tools prints with the second one, over a transport that is always down. -/
theorem requests_reach_closed_transport :
    let client : Client (Tapped Canned) :=
      { transport :=
          { transport := { answer := .error (.backend (.reported "closed")) }, sent := [] } }
    let r : Registry Float := { slots := [none, some startedRoll], revision := 1 }
    ((∀ s, some s ∈ r.slots → s.check = .ok ()) ∧
      ∀ m ∈ mounted r.slots [0, 2500.5], (m.2.1.profile.mass m.2.2).isNaN = false) ∧
    ∃ usage, Usage.bookAll? r.slots [0, 2500.5] = some usage ∧
      (∀ u ∈ usage, ∀ request, u.request? = some request → request.check = .ok ()) ∧
      ((Usage.sendAll usage).run client).2.sent = client.sent ++
        usage.filterMap Usage.request? := by
  intro client r
  have hcheck : ∀ s, some s ∈ r.slots → s.check = .ok () := by
    intro s hs
    rcases List.mem_cons.mp hs with hnone | hroll
    · cases hnone
    · obtain rfl : s = startedRoll := Option.some.inj (List.mem_singleton.mp hroll)
      exact eq_ok_of_toBool (by decide +kernel)
  have hmass : ∀ m ∈ mounted r.slots [0, 2500.5], (m.2.1.profile.mass m.2.2).isNaN = false := by
    decide +kernel
  refine ⟨⟨hcheck, hmass⟩, ?_⟩
  exact (requests_reach_transport NoticeLog.empty Settings.standard
    [.dispatch (.toolCountChanged 2)] 1 (some 4) client r [0, 2500.5] hcheck hmass).2.2

end Filament
