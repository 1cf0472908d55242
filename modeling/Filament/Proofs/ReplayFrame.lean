import Mathlib.Data.List.Induction
import Filament.Proofs.DroppedTools
import Filament.Proofs.Seeds

/-!
What a replay leaves alone.

A print is booked by storing each spool whole, as the registry holds it, so the store keeps what it
had only because the registry never holds anything but the spools of the store. `Replay.Spares` says
this of both at once: after a step the materials are the same, every spool that is stored or on a
tool is one that was so before with another amount used at most, and a spool that the step does not
book is stored as it was. After any steps of a valid scenario the store therefore holds what the
scenario gives it, except for what is used of the spools that were on a tool in a print
(`Replay.replay_changes_used_only`).
-/

namespace Filament

/-- The same roll, of which another amount may be used. -/
def Spool.SameRoll {α : Type} (a b : Spool α) : Prop := ∃ used, b = { a with used }

namespace Spool

variable {α : Type} {a b c : Spool α}

theorem sameRoll_refl (a : Spool α) : a.SameRoll a := ⟨a.used, rfl⟩

theorem SameRoll.trans (hab : a.SameRoll b) (hbc : b.SameRoll c) : a.SameRoll c := by
  obtain ⟨first, rfl⟩ := hab
  obtain ⟨last, rfl⟩ := hbc
  exact ⟨last, rfl⟩

theorem SameRoll.id_eq (h : a.SameRoll b) : b.id = a.id := by
  obtain ⟨used, rfl⟩ := h
  rfl

end Spool

/-! ## Events -/

/-- The event puts the spool on a tool. -/
def Event.Brings {α : Type} (spool : Spool α) : Event α → Prop
  | .selectionChanged _ selected => selected = some spool
  | .backendSelections selections => ∃ selection ∈ selections, selection.spool = some spool
  | _ => False

namespace Accounting

variable {α ν : Type} [Scalar α] {a b : Accounting α ν} {event : Event α}

/-- No spools come to the slots but those that an event brings. -/
theorem slots_take {changed : Bool} (h : (take event).run a = (.ok changed, b)) {spool : Spool α}
    (hspool : some spool ∈ b.registry.slots) :
    some spool ∈ a.registry.slots ∨ event.Brings spool := by
  cases taken_of_run h with
  | @resized count _ registry _ hresize =>
    have hresized : some spool ∈ (a.registry.resize count).2.slots := by
      rw [hresize]
      exact hspool
    obtain ⟨tool, hslot⟩ := List.mem_iff_getElem?.mp hresized
    exact Or.inl (List.mem_of_getElem? (Registry.resize_slots hslot))
  | selected => exact (List.mem_or_eq_of_mem_set hspool).imp_right Eq.symm
  | @pushed selections _ registry hpush =>
    have hpushed : some spool ∈ (a.registry.push selections).2.slots := by
      rw [hpush]
      exact hspool
    rcases Registry.mem_push hpushed with hold | ⟨selection, hmem, hspool⟩
    · exact Or.inl hold
    · exact Or.inr ⟨selection, hmem, hspool.symm⟩
  | metered => exact Or.inl hspool
  | named => exact Or.inl hspool
  | closed => exact Or.inl hspool
  | configured => exact Or.inl hspool

variable [Notifier ν]

theorem settings_dispatch (h : ∀ settings, event ≠ .settingsChanged settings) :
    ((dispatch event).run a).2.settings = a.settings := by
  rcases dispatch_cases a event with ⟨e, -, hd⟩ | ⟨b, hb, hd⟩ | ⟨b, hb, hd⟩
  · rw [hd]
  · rw [hd]
    rcases take_false hb with rfl | ⟨id, -, rfl⟩ | ⟨settings, hevent, -⟩
    · rfl
    · show (a.watch.noticeClosed id).settings = a.watch.settings
      unfold Watch.noticeClosed
      split <;> rfl
    · exact absurd hevent (h settings)
  · rw [hd]
    show (Watch.recompute _ _ _).2.settings = a.watch.settings
    rw [Watch.recompute_settings, noted_watch, (take_true hb).1]

end Accounting

namespace Usage

variable {α : Type} [Scalar α]

theorem sameRoll_of_book? {tool : Nat} {spool : Spool α} {length : α} {u : Usage α}
    (h : book? tool spool length = some u) : spool.SameRoll u.spool := by
  obtain ⟨used, -, hu⟩ := Option.bind_eq_some_iff.mp h
  obtain rfl := Option.some.inj hu
  exact ⟨used, rfl⟩

/-- Only spools on tools are booked on. -/
theorem sameRoll_of_bookAll? {slots : List (Option (Spool α))} {extrusion : List α}
    {usage : List (Usage α)} (h : bookAll? slots extrusion = some usage) :
    ∀ u ∈ usage, ∃ spool, some spool ∈ slots ∧ spool.SameRoll u.spool := by
  intro u hu
  obtain ⟨m, hm, hbook⟩ := mem_bookAll? h u hu
  exact ⟨m.2.1, (mem_mounted hm).1, sameRoll_of_book? hbook⟩

end Usage

namespace Replay

/-! ## Frames -/

/-- The spool is stored, or on a tool. -/
inductive Held (s : State Float) (spool : Spool Float) : Prop where
  | stored (id : Nat) (h : s.backend.spools[id]? = some spool)
  | mounted (h : some spool ∈ s.accounting.registry.slots)

/-- `t`, reached from `s`, has the same materials and the same spools, but other amounts may be
used, in the store only of the spools with the given ids. -/
structure Spares (booked : Set Nat) (s t : State Float) : Prop where
  settings : t.accounting.settings = s.accounting.settings
  profiles : t.backend.profiles = s.backend.profiles
  spools : ∀ id, id ∉ booked → t.backend.spools[id]? = s.backend.spools[id]?
  held : ∀ spool, Held t spool → ∃ before, Held s before ∧ before.SameRoll spool

section

variable {booked : Set Nat} {s t u : State Float}

theorem Spares.refl (s : State Float) : Spares booked s s :=
  ⟨rfl, rfl, fun _ _ => rfl, fun spool h => ⟨spool, h, spool.sameRoll_refl⟩⟩

theorem Spares.trans (hst : Spares booked s t) (htu : Spares booked t u) : Spares booked s u where
  settings := htu.settings.trans hst.settings
  profiles := htu.profiles.trans hst.profiles
  spools id hid := (htu.spools id hid).trans (hst.spools id hid)
  held spool hspool := by
    obtain ⟨between, hbetween, hlater⟩ := htu.held spool hspool
    obtain ⟨before, hbefore, hearlier⟩ := hst.held between hbetween
    exact ⟨before, hbefore, hearlier.trans hlater⟩

theorem Spares.mono {more : Set Nat} (h : Spares booked s t) (hmore : booked ⊆ more) :
    Spares more s t :=
  ⟨h.settings, h.profiles, fun id hid => h.spools id fun hmem => hid (hmore hmem), h.held⟩

/-- The selections and the outbox of the store play no part. -/
theorem Spares.of_same_tables {store after : Store Float}
    (h : Spares booked s { s with backend := store })
    (hprofiles : after.profiles = store.profiles) (hspools : after.spools = store.spools) :
    Spares booked s { s with backend := after } where
  settings := h.settings
  profiles := hprofiles.trans h.profiles
  spools id hid := by
    show after.spools[id]? = s.backend.spools[id]?
    rw [hspools]
    exact h.spools id hid
  held spool hspool := by
    refine h.held spool ?_
    cases hspool with
    | stored id hid => exact .stored id (hspools ▸ hid)
    | mounted hmounted => exact .mounted hmounted

/-- An event that brings no new spools spares everything. -/
theorem spares_dispatch {event : Event Float}
    (hevent : ∀ settings, event ≠ .settingsChanged settings)
    (hbrings : ∀ spool, event.Brings spool → Held s spool) :
    Spares booked s { s with accounting := ((Accounting.dispatch event).run s.accounting).2 } := by
  refine ⟨Accounting.settings_dispatch hevent, rfl, fun _ _ => rfl, fun spool hspool => ?_⟩
  refine ⟨spool, ?_, spool.sameRoll_refl⟩
  cases hspool with
  | stored id hid => exact .stored id hid
  | mounted hmounted =>
    rcases Accounting.take_cases s.accounting event with ⟨e, htake⟩ | ⟨changed, b, htake⟩
    · rw [Accounting.dispatch_error htake] at hmounted
      exact .mounted hmounted
    · rw [Accounting.dispatch_registry htake] at hmounted
      exact (Accounting.slots_take htake hmounted).elim .mounted (hbrings spool)

theorem spares_report {event : Event Float} (hevent : ∀ settings, event ≠ .settingsChanged settings)
    (hbrings : ∀ spool, ¬event.Brings spool) :
    Spares booked s ((perform.report (Session.dispatch event)).run s).2 := by
  rw [run_report]
  exact spares_dispatch hevent fun spool h => absurd h (hbrings spool)

theorem run_sync_spares (s : State Float) :
    ∃ outcome t, (Session.sync : Action (State Float) _ _).run s = (.ok outcome, t) ∧
      Spares booked s t := by
  obtain ⟨outcome, after, hdispatch, hrun, -⟩ := run_sync_ok s
  have hspares : Spares booked s { s with
      accounting :=
        ((Accounting.dispatch (.backendSelections s.backend.listed)).run s.accounting).2 } := by
    refine spares_dispatch nofun fun spool hbrings => ?_
    obtain ⟨selection, hmem, hspool⟩ := hbrings
    obtain ⟨id, -, hstored⟩ := Store.stored_of_listed hmem hspool
    exact .stored id hstored
  rw [hdispatch] at hspares
  exact ⟨outcome, { s with accounting := after }, hrun, hspares⟩

theorem run_handleAll_spares (messages : List Message) (s : State Float)
    (last : Option (Outcome Float)) :
    ∃ outcome t, (messages.foldlM (fun last message => return (← Session.handle message).or last)
        last : Action (State Float) (Error Float) _).run s = (.ok outcome, t) ∧
          Spares booked s t := by
  induction messages generalizing s last with
  | nil => exact ⟨last, s, rfl, .refl s⟩
  | cons message rest ih =>
    obtain ⟨outcome, t, hhandle, hone⟩ : ∃ outcome t,
        (Session.handle message : Action (State Float) _ _).run s = (.ok outcome, t) ∧
          Spares booked s t := by
      by_cases hrefresh : message.requiresRefresh = true
      · rw [run_handle hrefresh]
        exact run_sync_spares s
      · exact ⟨none, s, run_handle_of_not hrefresh s, .refl s⟩
    obtain ⟨result, u, hrest, hlater⟩ := ih t (outcome.or last)
    refine ⟨result, u, ?_, hone.trans hlater⟩
    rw [run_handleAll_cons hhandle]
    exact hrest

/-! ## One step -/

theorem spares_select (tool : Nat) (id : Option Nat) :
    Spares booked s ((perform (.select tool id)).run s).2 := by
  cases run_select s tool id with
  | unknownSpool i hlt hid hmissing hrun =>
    rw [run_perform_select hrun]
    exact .refl s
  | unknownTool hlt hrun =>
    rw [run_perform_select hrun]
    exact .refl s
  | stored hlt hknown hrun =>
    rw [run_dispatch] at hrun
    rw [run_perform_select hrun]
    have hselected : Spares booked s { s with
        backend := { s.backend with selections := s.backend.selections.insert tool id } } :=
      (Spares.refl s).of_same_tables rfl rfl
    refine hselected.trans (spares_dispatch nofun fun spool hbrings => ?_)
    obtain ⟨i, -, hi⟩ := Option.bind_eq_some_iff.mp hbrings
    exact .stored i hi

/-- The ids of the spools that a print may book on. -/
def mountedIds (s : State Float) : Set Nat :=
  {id | s.accounting.settings.enableOdometer = true ∧
    ∃ tool spool, spoolOn s tool = some spool ∧ spool.id = some id}

theorem mem_mountedIds (h : s.accounting.settings.enableOdometer = true) {spool : Spool Float}
    (hspool : some spool ∈ s.accounting.registry.slots) {id : Nat} (hid : spool.id = some id) :
    id ∈ mountedIds s := by
  obtain ⟨tool, hslot⟩ := List.mem_iff_getElem?.mp hspool
  exact ⟨h, tool, spool, Option.join_eq_some_iff.mpr hslot, hid⟩

/-- What a print books is a spool on a tool, and lines were counted. -/
theorem usage_printed {program : String} {usage : List (Usage Float)}
    (h : (s.accounting.printed program).finishPrint.1 = some usage) :
    ∀ u ∈ usage, s.accounting.settings.enableOdometer = true ∧
      ∃ spool, some spool ∈ s.accounting.registry.slots ∧ spool.SameRoll u.spool := by
  have hfinish : (s.accounting.printed program).finishPrint.1 = _ :=
    Print.finish_fst (s.accounting.printed program).print (s.accounting.printed program).registry
  obtain ⟨fed, hprint⟩ := s.accounting.print_printed program
  rw [hfinish, hprint, (s.accounting.printed_frame program).1] at h
  intro u hu
  split at h
  · rename_i hcounted
    exact ⟨((Bool.and_eq_true _ _).mp hcounted).2, Usage.sameRoll_of_bookAll? h u hu⟩
  · obtain rfl := Option.some.inj h
    cases hu

/-- Sending usage replaces spools of the store by what was booked on the spools on the tools. -/
theorem spares_sendAll {usage : List (Usage Float)}
    (h : ∀ u ∈ usage, s.accounting.settings.enableOdometer = true ∧
      ∃ spool, some spool ∈ s.accounting.registry.slots ∧ spool.SameRoll u.spool) :
    Spares (mountedIds s) s { s with backend := ((Usage.sendAll usage).run s.backend).2 } := by
  refine Usage.sendAll_induction
    (P := fun store => Spares (mountedIds s) s { s with backend := store })
    (fun u hu store id hid hstore => ?_) (.refl s)
  obtain ⟨hcounting, spool, hspool, hsame⟩ := h u hu
  have hchanged := store.change_changed (.updateSpool id u.spool)
  generalize store.change (.updateSpool id u.spool) = after at hchanged ⊢
  cases hchanged with
  | refused => exact hstore
  | spoolUpdated _ _ haccept hstored =>
    have hown : { u.spool with id := some id } = u.spool := by rw [← hid]
    rw [hown]
    refine ⟨rfl, hstore.profiles, fun other hother => ?_, fun held hheld => ?_⟩
    · have hne : id ≠ other := by
        rintro rfl
        exact hother (mem_mountedIds hcounting hspool (hsame.id_eq.symm.trans hid))
      exact (store.getElem?_replaced id other u.spool |>.trans (if_neg hne)).trans
        (hstore.spools other hother)
    · -- What is stored now was on a tool, with another amount used.
      cases hheld with
      | mounted hmounted => exact ⟨held, .mounted hmounted, held.sameRoll_refl⟩
      | stored other hother =>
        have hother : (store.replaced id u.spool).spools[other]? = some held := hother
        rw [Store.getElem?_replaced] at hother
        split at hother
        · obtain rfl := Option.some.inj hother
          exact ⟨spool, .mounted hspool, hsame⟩
        · exact hstore.held held (.stored other hother)

theorem spares_sent {store : Store Float} (program : String)
    (h : Spares booked s { s with backend := store }) : Spares booked s (sent s program store) := by
  obtain ⟨hregistry, hwatch⟩ := sent_frame s program store
  refine ⟨?_, h.profiles, h.spools, fun spool hspool => ?_⟩
  · show (sent s program store).accounting.watch.settings = s.accounting.watch.settings
    rw [hwatch]
  · cases hspool with
    | stored id hid => exact h.held spool (.stored id hid)
    | mounted hmounted =>
      rw [hregistry] at hmounted
      exact h.held spool (.mounted hmounted)

theorem spares_print (program : String) : Spares (mountedIds s) s ((runPrint program).run s).2 := by
  cases hfinish : (s.accounting.printed program).finishPrint.1 with
  | none =>
    rw [run_runPrint_unbookable hfinish]
    exact spares_sent program (.refl s)
  | some usage =>
    have hspares := spares_sendAll (usage_printed hfinish)
    cases hsend : (Usage.sendAll usage).run s.backend with
    | mk answer store =>
      rw [hsend] at hspares
      cases answer with
      | error e =>
        rw [run_runPrint_error hfinish hsend]
        exact spares_sent program hspares
      | ok saved =>
        obtain ⟨outcome, t, hfollow, hlater⟩ : ∃ outcome t,
            (handleAll store.outbox).run (sent s program store.drain.2) = (.ok outcome, t) ∧
              Spares (mountedIds s) (sent s program store.drain.2) t :=
          run_handleAll_spares store.outbox _ none
        obtain ⟨details, hrun⟩ := run_runPrint_ok hfinish hsend hfollow
        have hdrained : Spares (mountedIds s) s { s with backend := store.drain.2 } :=
          hspares.of_same_tables rfl rfl
        rw [hrun]
        exact (spares_sent program hdrained).trans hlater

/-- The ids of the spools that a step may book on. -/
def bookedIds (s : State Float) : Step Float → Set Nat
  | .print _ => mountedIds s
  | _ => ∅

theorem spares_stepped (s : State Float) (step : Step Float × Nat) :
    Spares (bookedIds s step.1) s (stepped s step) := by
  obtain ⟨step, number⟩ := step
  rw [stepped_eq]
  cases step with
  | toolCount count => exact spares_report nofun nofun
  | select tool id => exact spares_select tool id
  | file name => exact spares_report nofun nofun
  | telemetry filament => exact spares_report nofun nofun
  | closeNotice id => exact spares_report nofun nofun
  | confirm answers => exact .refl s
  | print program => exact spares_print program

end

/-! ## Runs -/

/-- One of the steps is a print with lines counted that finds the spool with the id on a tool. -/
def BookedIn (scenario : Scenario Float) (steps : List (Step Float)) (id : Nat) : Prop :=
  scenario.settings.enableOdometer = true ∧
    ∃ earlier program, earlier ++ [.print program] <+: steps ∧
      ∃ tool spool, spoolOn (progressOf scenario earlier).state tool = some spool ∧
        spool.id = some id

theorem bookedIn_snoc {scenario : Scenario Float} {steps : List (Step Float)} {id : Nat}
    (h : BookedIn scenario steps id) (step : Step Float) :
    BookedIn scenario (steps ++ [step]) id := by
  obtain ⟨hcounting, earlier, program, hprefix, hspool⟩ := h
  exact ⟨hcounting, earlier, program, hprefix.trans (List.prefix_append steps [step]), hspool⟩

theorem advance_state {p : Progress Float} (h : p.failure = none) (step : Step Float × Nat) :
    (p.advance step).state = stepped p.state step := by
  unfold Progress.advance stepped
  rw [h]
  dsimp only
  cases (runStep step.2 step.1).run p.state with
  | mk result t => cases result <;> rfl

/-- Any steps, also up to one that fails, spare the spools that they do not book. -/
theorem spares_progressOf (scenario : Scenario Float) (steps : List (Step Float)) :
    Spares {id | BookedIn scenario steps id} (ofScenario scenario)
      (progressOf scenario steps).state := by
  induction steps using List.reverseRecOn with
  | nil => exact .refl _
  | append_singleton steps step ih =>
    have hearlier := ih.mono fun id (hid : BookedIn scenario steps id) => bookedIn_snoc hid step
    rw [progressOf_snoc]
    cases hfailure : (progressOf scenario steps).failure with
    | some e =>
      rw [advance_failure hfailure]
      exact hearlier
    | none =>
      rw [advance_state hfailure]
      refine hearlier.trans ((spares_stepped _ _).mono fun id hid => ?_)
      cases step with
      | print program =>
        obtain ⟨hcounting, tool, spool, hspool, hid⟩ := hid
        rw [ih.settings] at hcounting
        exact ⟨hcounting, steps, program, List.prefix_rfl, tool, spool, hspool, hid⟩
      | _ => cases hid

/-- A valid scenario starts with its own entries in the store. -/
theorem stored_ofScenario {scenario : Scenario Float} (h : scenario.check = .ok ()) :
    (∀ id p, (ofScenario scenario).backend.profiles[id]? = some p ↔
        p ∈ scenario.profiles ∧ p.id = some id) ∧
      ∀ id spool, (ofScenario scenario).backend.spools[id]? = some spool ↔
        spool ∈ scenario.spools ∧ spool.id = some id := by
  obtain ⟨⟨hprofileIds, hdistinct⟩, hspoolIds, hdistinct'⟩ := Scenario.ids_of_check h
  exact Store.ofSeeds_of_own hprofileIds hdistinct hspoolIds hdistinct'

/-- The store has no spools but those of the scenario, each under its id. -/
theorem rolls_progressOf {scenario : Scenario Float} (hcheck : scenario.check = .ok ())
    {steps : List (Step Float)} (hdone : (progressOf scenario steps).failure = none) {id : Nat}
    {stored : Spool Float}
    (hstored : (progressOf scenario steps).state.backend.spools[id]? = some stored) :
    ∃ spool ∈ scenario.spools, spool.id = some id ∧ spool.SameRoll stored := by
  obtain ⟨before, hbefore, hsame⟩ :=
    (spares_progressOf scenario steps).held stored (.stored id hstored)
  cases hbefore with
  | mounted hmounted => cases hmounted
  | stored own hown =>
    obtain ⟨hmem, -⟩ := ((stored_ofScenario hcheck).2 own before).mp hown
    have hid : stored.id = some id :=
      ((underway_progressOf hcheck steps hdone).sound id stored hstored).1
    exact ⟨before, hmem, hsame.id_eq.symm.trans hid, hsame⟩

/-- After any steps of a valid scenario that succeed, the store holds the materials of the scenario
as they are, and its spools and no others. Each spool is stored under its id and is valid, and
nothing of it is another but what is used, and that only if it was on a tool in a print with lines
counted. -/
theorem replay_changes_used_only (scenario : Scenario Float) (hcheck : scenario.check = .ok ())
    (steps : List (Step Float)) (hdone : (progressOf scenario steps).failure = none) :
    let store := (progressOf scenario steps).state.backend
    (∀ p ∈ scenario.profiles, ∃ id, p.id = some id ∧ store.profiles[id]? = some p) ∧
    (∀ id p, store.profiles[id]? = some p → p ∈ scenario.profiles ∧ p.id = some id) ∧
    (∀ spool ∈ scenario.spools, ∃ id stored, spool.id = some id ∧ store.spools[id]? = some stored ∧
      spool.SameRoll stored ∧ stored.check = .ok () ∧
      (stored.used ≠ spool.used → BookedIn scenario steps id)) ∧
    ∀ id stored, store.spools[id]? = some stored →
      ∃ spool ∈ scenario.spools, spool.id = some id ∧ spool.SameRoll stored := by
  intro store
  obtain ⟨⟨hprofileIds, -⟩, hspoolIds, -⟩ := Scenario.ids_of_check hcheck
  obtain ⟨hprofiles, hspools⟩ := stored_ofScenario hcheck
  have hend : Underway scenario steps (progressOf scenario steps) :=
    underway_progressOf hcheck steps hdone
  have hspares := spares_progressOf scenario steps
  have hmaterials : store.profiles = (ofScenario scenario).backend.profiles := hspares.profiles
  rw [hmaterials]
  refine ⟨fun p hp => ?_, fun id p hp => (hprofiles id p).mp hp, fun spool hspool => ?_,
    fun id stored hstored => rolls_progressOf hcheck hdone hstored⟩
  · obtain ⟨id, hid⟩ := Option.isSome_iff_exists.mp (hprofileIds p hp)
    exact ⟨id, hid, (hprofiles id p).mpr ⟨hp, hid⟩⟩
  · obtain ⟨id, hid⟩ := Option.isSome_iff_exists.mp (hspoolIds spool hspool)
    have hcontains : store.spools.contains id = true := hend.stored spool hspool id hid
    rw [Std.TreeMap.contains_eq_isSome_getElem?] at hcontains
    obtain ⟨stored, hstored⟩ := Option.isSome_iff_exists.mp hcontains
    have hstart := (hspools id spool).mpr ⟨hspool, hid⟩
    -- No two spools of the scenario have one id.
    obtain ⟨other, hother, hotherId, hsame⟩ := rolls_progressOf hcheck hdone hstored
    obtain rfl : other = spool :=
      Option.some.inj (((hspools id other).mpr ⟨hother, hotherId⟩).symm.trans hstart)
    refine ⟨id, stored, hid, hstored, hsame, (hend.sound id stored hstored).2, fun hused => ?_⟩
    by_contra hspared
    have hkept : store.spools[id]? = some other := (hspares.spools id hspared).trans hstart
    obtain rfl : stored = other := Option.some.inj (hstored.symm.trans hkept)
    exact hused rfl

/-- The print of the two spools books the first one, and leaves the rest of it as it was. -/
theorem replay_changes_used_only_twoSpools :
    twoSpools.check = .ok () ∧ (progressOf twoSpools twoSpools.steps).failure = none ∧
      ∃ spool ∈ twoSpools.spools, ∃ stored,
        (progressOf twoSpools twoSpools.steps).state.backend.spools[1]? = some stored ∧
        spool.SameRoll stored ∧ stored.used ≠ spool.used ∧
          BookedIn twoSpools twoSpools.steps 1 := by
  have hdone : (progressOf twoSpools twoSpools.steps).failure = none := by
    have hok : (progressOf twoSpools twoSpools.steps).failure.isNone = true := by decide +kernel
    exact Option.isNone_iff_eq_none.mp hok
  have hused : ((progressOf twoSpools twoSpools.steps).state.backend.spools[1]?.map fun stored =>
      stored.used == 0) = some false := by
    decide +kernel
  obtain ⟨-, -, hrolls, -⟩ :=
    replay_changes_used_only twoSpools twoSpools_check twoSpools.steps hdone
  obtain ⟨id, stored, hid, hstored, hsame, -, hbooked⟩ := hrolls _ List.mem_cons_self
  obtain rfl : 1 = id := Option.some.inj hid
  rw [hstored] at hused
  have hchanged : stored.used ≠ 0 := by
    intro hzero
    rw [Option.map_some, hzero] at hused
    cases hused
  exact ⟨twoSpools_check, hdone, _, List.mem_cons_self, stored, hstored, hsame, hchanged,
    hbooked hchanged⟩

end Replay
end Filament
