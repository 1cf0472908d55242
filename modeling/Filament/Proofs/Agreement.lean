import Filament.Proofs.Double
import Filament.Proofs.Recorded
import Filament.Proofs.Slots
import Filament.Proofs.StoreChange
import Filament.Replay

/-!
The selections of the registry and those of the store.

A session is settled if every spool in the registry is the one that the store has selected for its
tool, as it is stored now (`Replay.Settled`). Taking over the listed selections settles a session
whose store has changed (`run_sync_of_trailing`), and taking them over once more does nothing but
tell the listeners (`run_sync_of_upToDate`). Of several messages only the first one therefore leads
to a recompute, and the session is settled again after all of them (`run_handleAll`).
-/

namespace Filament

variable {α : Type}

/-! ## Events in a recording shell -/

theorem Watch.respond_shownIds (w : Watch α NoticeLog) (fresh : Option Nat) (anyShort : Bool) :
    (w.respond fresh anyShort).2.notifier.shownIds =
      w.notifier.shownIds ++ (w.respond fresh anyShort).1.1.toList := by
  have h := w.respond_responds fresh anyShort
  generalize w.respond fresh anyShort = result at h ⊢
  cases h with
  | opened => simp [Notifier.post, NoticeLog.shownIds]
  | replaced => simp [Notifier.post, Notifier.retire, NoticeLog.shownIds]
  | dismissed => simp [Notifier.retire, NoticeLog.shownIds]
  | off => simp
  | kept => simp

/-- The notices shown were given the numbers from one on. -/
def NoticeLog.Counted (log : NoticeLog) : Prop :=
  log.shownIds = List.range' 1 log.shownIds.length ∧ log.nextId = log.shownIds.length + 1

theorem NoticeLog.counted_post {log : NoticeLog} (h : log.Counted) (notice : Notice) :
    Counted (Notifier.post notice log).2 := by
  obtain ⟨hids, hnext⟩ := h
  have hshown : (Notifier.post notice log).2.shownIds = log.shownIds ++ [log.nextId] := by
    simp [Notifier.post, shownIds]
  have hlength : (Notifier.post notice log).2.shownIds.length = log.shownIds.length + 1 := by
    rw [hshown, List.length_append, List.length_singleton]
  refine ⟨?_, ?_⟩
  · rw [hlength, List.range'_concat, ← hids, hshown, hnext, Nat.one_mul, Nat.add_comm 1]
  · rw [hlength, ← hnext]
    rfl

theorem NoticeLog.counted_retire {log : NoticeLog} (h : log.Counted) (id delay : Nat) :
    Counted (Notifier.retire id delay log) := by
  have hshown : (Notifier.retire id delay log).shownIds = log.shownIds := by
    simp [Notifier.retire, shownIds]
  unfold Counted
  rw [hshown]
  exact h

theorem Accounting.dispatch_counted [Scalar α] {a : Accounting α NoticeLog}
    (h : a.watch.notifier.Counted) (event : Event α) :
    ((dispatch event).run a).2.watch.notifier.Counted :=
  call_notifier (P := NoticeLog.Counted) (fun notice _ h => NoticeLog.counted_post h notice)
    (fun id delay _ h => NoticeLog.counted_retire h id delay) a (.dispatch event) h

theorem Accounting.take_notifier {ν : Type} [Scalar α] {a b : Accounting α ν} {event : Event α}
    {changed : Bool} (h : (take event).run a = (.ok changed, b)) :
    b.watch.notifier = a.watch.notifier := by
  cases changed with
  | true => rw [(take_true h).1]
  | false =>
    rcases take_false h with rfl | ⟨id, -, rfl⟩ | ⟨settings, -, -, rfl⟩
    · rfl
    · exact Watch.noticeClosed_notifier a.watch id
    · rfl

/-- An event that is taken shows the notice that it reports, and changes the registry only as it is
taken. -/
theorem Accounting.dispatch_of_take [Scalar α] {a b : Accounting α NoticeLog} {event : Event α}
    {changed : Bool} (h : (take event).run a = (.ok changed, b)) :
    ∃ outcome after, (dispatch event).run a = (.ok outcome, after) ∧ after.registry = b.registry ∧
      after.watch.notifier.shownIds =
        a.watch.notifier.shownIds ++ (outcome.bind Outcome.notice).toList := by
  have hnotifier := take_notifier h
  cases changed with
  | false =>
    refine ⟨_, _, dispatch_false h, rfl, ?_⟩
    show b.watch.notifier.shownIds = a.watch.notifier.shownIds ++ []
    rw [hnotifier, List.append_nil]
  | true =>
    refine ⟨_, _, dispatch_true h, ?_, ?_⟩
    · show (b.noted event).registry = b.registry
      unfold noted
      split <;> rfl
    · show ((b.noted event).watch.respond _ _).2.notifier.shownIds =
        a.watch.notifier.shownIds ++ ((b.noted event).watch.respond _ _).1.1.toList
      rw [Watch.respond_shownIds, noted_watch, hnotifier]

namespace Replay

/-! ## Settled sessions -/

/-- The spool is the one that the store has selected for the tool, as it is stored. -/
def Agrees (store : Store Float) (tool : Nat) (spool : Spool Float) : Prop :=
  ∃ id stored, spool.id = some id ∧ store.selections[tool]? = some (some id) ∧
    store.spools[id]? = some stored ∧ (spool == stored) = true

/-- Every spool in the slots is valid and agrees with the store. -/
def Fits (store : Store Float) (slots : List (Option (Spool Float))) : Prop :=
  ∀ (tool : Nat) (spool : Spool Float), slots[tool]? = some (some spool) →
    spool.check = .ok () ∧ Agrees store tool spool

structure Settled (s : State Float) : Prop where
  sound : s.backend.Sound
  quiet : s.backend.outbox = []
  counted : s.accounting.watch.notifier.Counted
  fits : Fits s.backend s.accounting.registry.slots

/-- The store may have changed since the session was settled, but not in the tools that have a
selection. -/
structure Trailing (s : State Float) : Prop where
  sound : s.backend.Sound
  quiet : s.backend.outbox = []
  counted : s.accounting.watch.notifier.Counted
  valid : ∀ (tool : Nat) (spool : Spool Float),
    s.accounting.registry.slots[tool]? = some (some spool) →
      spool.check = .ok () ∧ s.backend.selections.contains tool = true

/-- Every tool that has a selection in the store holds it. -/
def UpToDate (s : State Float) : Prop :=
  ∀ selection ∈ s.backend.listed, ∀ slot,
    s.accounting.registry.slots[selection.tool]? = some slot → (slot == selection.spool) = true

theorem trailing_of_announced {s : State Float} (hs : Settled s) {store : Store Float}
    (h : s.backend.Announced store) : Trailing { s with backend := store.drain.2 } := by
  refine ⟨h.sound, rfl, hs.counted, fun tool spool hslot => ?_⟩
  obtain ⟨hcheck, id, stored, -, hselected, -, -⟩ := hs.fits tool spool hslot
  refine ⟨hcheck, (h.tools tool).trans ?_⟩
  rw [Std.TreeMap.contains_eq_isSome_getElem?, hselected]
  rfl

theorem agrees_of_listed {store : Store Float} (hsound : store.Sound) {selection : Selection Float}
    (hlisted : selection ∈ store.listed) {stored spool : Spool Float}
    (hstored : selection.spool = some stored) (hsame : (spool == stored) = true) :
    Agrees store selection.tool spool := by
  obtain ⟨id, hentry, hspool⟩ := Store.stored_of_listed hlisted hstored
  obtain ⟨hid, -⟩ := hsound id stored hspool
  have hfields : (spool.id == stored.id && spool.name == stored.name &&
      spool.profile == stored.profile && spool.cost == stored.cost &&
      spool.weight == stored.weight && spool.used == stored.used &&
      spool.tempOffset == stored.tempOffset) = true := hsame
  simp only [Bool.and_eq_true, beq_iff_eq] at hfields
  obtain ⟨⟨⟨⟨⟨⟨hown, -⟩, -⟩, -⟩, -⟩, -⟩, -⟩ := hfields
  exact ⟨id, stored, hown.trans hid, hentry, hspool, hsame⟩

theorem check_of_listed {store : Store Float} (hsound : store.Sound) {selection : Selection Float}
    (hlisted : selection ∈ store.listed) {stored : Spool Float}
    (hstored : selection.spool = some stored) : stored.check = .ok () := by
  obtain ⟨id, -, hspool⟩ := Store.stored_of_listed hlisted hstored
  exact (hsound id stored hspool).2

theorem listed_beq_self {store : Store Float} (hsound : store.Sound) {selection : Selection Float}
    (hlisted : selection ∈ store.listed) : (selection.spool == selection.spool) = true := by
  cases hspool : selection.spool with
  | none => rfl
  | some stored => exact Spool.beq_self_of_check (check_of_listed hsound hlisted hspool)

/-! ## Taking over the selections -/

/-- The session `t`, reached from `s`, is settled and has shown the notice that is reported, and no
other one. -/
structure Reported (s : State Float) (outcome : Option (Outcome Float))
    (t : State Float) : Prop where
  settled : Settled t
  shown : t.accounting.watch.notifier.shownIds =
    s.accounting.watch.notifier.shownIds ++ (outcome.bind Outcome.notice).toList

theorem run_dispatch (s : State Float) (event : Event Float) :
    (Session.dispatch event : Action (State Float) _ _).run s =
      (((Accounting.dispatch event).run s.accounting).1,
        { s with accounting := ((Accounting.dispatch event).run s.accounting).2 }) := rfl

/-- An event that is taken settles the session if it leaves spools in the slots that agree with the
store. -/
theorem run_dispatch_of_take {s : State Float} (hsound : s.backend.Sound)
    (hquiet : s.backend.outbox = []) (hcounted : s.accounting.watch.notifier.Counted)
    {event : Event Float} {changed : Bool} {b : Accounting Float NoticeLog}
    (htake : (Accounting.take event).run s.accounting = (.ok changed, b))
    (hfits : Fits s.backend b.registry.slots) :
    ∃ outcome t, (Session.dispatch event : Action (State Float) _ _).run s = (.ok outcome, t) ∧
      Reported s outcome t ∧ t.backend = s.backend ∧ t.accounting.registry = b.registry := by
  obtain ⟨outcome, after, hdispatch, hregistry, hshown⟩ := Accounting.dispatch_of_take htake
  refine ⟨outcome, { s with accounting := after }, ?_, ⟨⟨hsound, hquiet, ?_, ?_⟩, hshown⟩, rfl,
    hregistry⟩
  · rw [run_dispatch, hdispatch]
  · have hafter := Accounting.dispatch_counted hcounted event
    rw [hdispatch] at hafter
    exact hafter
  · show Fits s.backend after.registry.slots
    rw [hregistry]
    exact hfits

theorem run_sync (s : State Float) :
    (Session.sync : Action (State Float) _ _).run s =
      (Session.dispatch (.backendSelections s.backend.listed)).run s := by
  unfold Session.sync
  rw [Action.run_bind]
  rfl

/-- Taking over the selections cannot fail, and changes the registry as they are pushed. -/
theorem run_sync_ok (s : State Float) :
    ∃ outcome after,
      (Accounting.dispatch (.backendSelections s.backend.listed)).run s.accounting =
        (.ok outcome, after) ∧
      (Session.sync : Action (State Float) _ _).run s =
        (.ok outcome, { s with accounting := after }) ∧
      after.registry = (s.accounting.registry.push s.backend.listed).2 := by
  have htake := Accounting.run_take_backendSelections (a := s.accounting) s.backend.listed
  obtain ⟨outcome, after, hdispatch, hregistry, -⟩ := Accounting.dispatch_of_take htake
  refine ⟨outcome, after, hdispatch, ?_, hregistry⟩
  rw [run_sync, run_dispatch, hdispatch]

theorem fits_push {s : State Float} (hs : Trailing s) :
    Fits s.backend (s.accounting.registry.push s.backend.listed).2.slots := by
  intro tool spool hslot
  by_cases hlisted : tool ∈ s.backend.listed.map Selection.tool
  · obtain ⟨selection, hmem, rfl⟩ := List.mem_map.mp hlisted
    rw [Registry.push_slots_of_mem s.backend.nodup_listed hmem] at hslot
    obtain ⟨slot, hbefore, hover⟩ := Option.map_eq_some_iff.mp hslot
    rcases Registry.overlay_eq_or selection.spool slot with hpushed | ⟨hkept, hsame⟩
    · have hstored : selection.spool = some spool := hpushed.symm.trans hover
      have hcheck := check_of_listed hs.sound hmem hstored
      exact ⟨hcheck, agrees_of_listed hs.sound hmem hstored (Spool.beq_self_of_check hcheck)⟩
    · obtain rfl : slot = some spool := hkept.symm.trans hover
      obtain ⟨hcheck, -⟩ := hs.valid selection.tool spool hbefore
      cases hstored : selection.spool with
      | none =>
        rw [hstored] at hsame
        cases hsame
      | some stored =>
        rw [hstored] at hsame
        exact ⟨hcheck, agrees_of_listed hs.sound hmem hstored hsame⟩
  · -- A tool that the store has no selection for held no spool before.
    rw [Registry.push_slots_of_not_mem hlisted] at hslot
    obtain ⟨-, hcontains⟩ := hs.valid tool spool hslot
    rw [Std.TreeMap.contains_eq_isSome_getElem?] at hcontains
    obtain ⟨entry, hentry⟩ := Option.isSome_iff_exists.mp hcontains
    have hmem : { tool, spool := s.backend.resolve entry } ∈ s.backend.listed :=
      Store.mem_listed_iff.mpr ⟨entry, hentry, rfl⟩
    exact absurd (List.mem_map.mpr ⟨_, hmem, rfl⟩) hlisted

theorem upToDate_push {s : State Float} (hs : Trailing s) :
    ∀ selection ∈ s.backend.listed, ∀ slot,
      (s.accounting.registry.push s.backend.listed).2.slots[selection.tool]? = some slot →
        (slot == selection.spool) = true := by
  intro selection hmem slot hslot
  rw [Registry.push_slots_of_mem s.backend.nodup_listed hmem] at hslot
  obtain ⟨before, -, hover⟩ := Option.map_eq_some_iff.mp hslot
  rcases Registry.overlay_eq_or selection.spool before with hpushed | ⟨hkept, hsame⟩
  · rw [← hover, hpushed]
    exact listed_beq_self hs.sound hmem
  · rw [← hover, hkept]
    exact hsame

theorem run_sync_of_trailing {s : State Float} (hs : Trailing s) :
    ∃ outcome t, (Session.sync : Action (State Float) _ _).run s = (.ok outcome, t) ∧
      Reported s outcome t ∧ UpToDate t ∧ t.backend = s.backend ∧
      t.accounting.registry.toolCount = s.accounting.registry.toolCount := by
  have htake := Accounting.run_take_backendSelections (a := s.accounting) s.backend.listed
  obtain ⟨outcome, t, hrun, hreported, hbackend, hregistry⟩ :=
    run_dispatch_of_take hs.sound hs.quiet hs.counted htake (fits_push hs)
  refine ⟨outcome, t, (run_sync s).trans hrun, hreported, ?_, hbackend, ?_⟩
  · unfold UpToDate
    rw [hbackend, hregistry]
    exact upToDate_push hs
  · rw [hregistry]
    exact Registry.toolCount_push

/-- The listeners are told, and that is all. -/
theorem run_sync_of_upToDate {s : State Float} (hs : UpToDate s) :
    (Session.sync : Action (State Float) _ _).run s =
      (.ok none, { s with
        accounting := s.accounting.tell (.event (.backendSelections s.backend.listed)) }) := by
  have hpush := Registry.push_of_agrees hs
  have htake : (Accounting.take (.backendSelections s.backend.listed)).run s.accounting =
      (.ok false, s.accounting) := by
    rw [Accounting.run_take_backendSelections, hpush]
  rw [run_sync, run_dispatch, Accounting.dispatch_false htake]

/-! ## Messages -/

theorem run_handle {message : Message} (h : message.requiresRefresh = true) (s : State Float) :
    (Session.handle message : Action (State Float) _ _).run s = Session.sync.run s := by
  unfold Session.handle
  rw [if_pos h]

theorem run_handle_of_not {message : Message} (h : ¬message.requiresRefresh = true)
    (s : State Float) :
    (Session.handle message : Action (State Float) _ _).run s = (.ok none, s) := by
  unfold Session.handle
  rw [if_neg h]
  rfl

theorem run_handleAll_cons {message : Message} {rest : List Message} {s t : State Float}
    {outcome last : Option (Outcome Float)}
    (h : (Session.handle message : Action (State Float) _ _).run s = (.ok outcome, t)) :
    ((message :: rest).foldlM (fun last message => return (← Session.handle message).or last)
        last : Action (State Float) (Error Float) _).run s =
      (rest.foldlM (fun last message => return (← Session.handle message).or last)
        (outcome.or last) : Action (State Float) (Error Float) _).run t := by
  rw [List.foldlM_cons, Action.run_bind, Action.run_bind, h]
  rfl

/-- Messages about what a session has taken over already change nothing. -/
theorem run_handleAll_of_upToDate {messages : List Message}
    (hrefresh : ∀ message ∈ messages, message.requiresRefresh = true) {s : State Float}
    (hs : Settled s) (huptodate : UpToDate s) (last : Option (Outcome Float)) :
    ∃ t, (messages.foldlM (fun last message => return (← Session.handle message).or last)
        last : Action (State Float) (Error Float) _).run s = (.ok last, t) ∧
      Reported s none t ∧ t.backend = s.backend ∧
      t.accounting.registry.toolCount = s.accounting.registry.toolCount := by
  induction messages generalizing s with
  | nil => exact ⟨s, rfl, ⟨hs, (List.append_nil _).symm⟩, rfl, rfl⟩
  | cons message rest ih =>
    have hhandle := (run_handle (hrefresh message List.mem_cons_self) s).trans
      (run_sync_of_upToDate huptodate)
    have hsettled : Settled { s with
        accounting := s.accounting.tell (.event (.backendSelections s.backend.listed)) } :=
      ⟨hs.sound, hs.quiet, hs.counted, hs.fits⟩
    obtain ⟨t, hrun, hreported, hbackend, hcount⟩ :=
      ih (fun m hm => hrefresh m (List.mem_cons_of_mem message hm)) hsettled huptodate
    rw [run_handleAll_cons hhandle]
    exact ⟨t, hrun, ⟨hreported.settled, hreported.shown⟩, hbackend, hcount⟩

/-- After a store was changed, following its messages settles the session. The notice of the one
recompute that this may cause is reported. -/
theorem run_handleAll {s : State Float} (hs : Settled s) {store : Store Float}
    (h : s.backend.Announced store) :
    ∃ outcome t, (handleAll store.outbox).run { s with backend := store.drain.2 } =
      (.ok outcome, t) ∧
      Reported s outcome t ∧ t.backend = store.drain.2 ∧
      t.accounting.registry.toolCount = s.accounting.registry.toolCount := by
  have hrefresh := h.refresh
  cases hmessages : store.outbox with
  | nil =>
    have hstore : store = s.backend := h.quiet hmessages
    have hdrain : store.drain.2 = s.backend := by
      rw [hstore]
      show { s.backend with outbox := [] } = s.backend
      rw [← hs.quiet]
    refine ⟨none, { s with backend := store.drain.2 }, rfl,
      ⟨?_, (List.append_nil _).symm⟩, rfl, rfl⟩
    rw [hdrain]
    exact hs
  | cons message rest =>
    -- The first message brings the session up to date; the others find nothing new.
    rw [hmessages] at hrefresh
    obtain ⟨outcome, t, hsync, hreported, huptodate, hbackend, hcount⟩ :=
      run_sync_of_trailing (trailing_of_announced hs h)
    obtain ⟨u, hrest, hlater, hbackend', hcount'⟩ := run_handleAll_of_upToDate
      (fun m hm => hrefresh m (List.mem_cons_of_mem message hm)) hreported.settled huptodate
      (outcome.or none)
    refine ⟨outcome, u, ?_, ⟨hlater.settled, ?_⟩, hbackend'.trans hbackend, hcount'.trans hcount⟩
    · unfold handleAll
      rw [run_handleAll_cons ((run_handle (hrefresh message List.mem_cons_self) _).trans hsync),
        hrest, Option.or_none]
    · have hshown := hlater.shown
      rw [hreported.shown] at hshown
      exact hshown.trans (List.append_nil _)

end Replay
end Filament
