import Mathlib.Data.List.Induction
import Filament.Proofs.Refusal
import Filament.Proofs.ReplayRun

/-!
Tools that the printer lost.

When the printer reports fewer tools, the registry drops the spools of the others, and when it
reports more again, these come back without a spool. The store is told of neither, for the backend
owns the selections. A tool that was dropped therefore stays empty until a spool is selected for it
again, or until the store announces a booking: the session then takes over what the store still has
selected (`Replay.dropped_tool_empty`).
-/

namespace Filament

def Store.selected? {α : Type} (s : Store α) (tool : Nat) : Option (Spool α) :=
  s.selections[tool]?.bind s.resolve

theorem Store.selected?_of_listed {α : Type} {s : Store α} {selection : Selection α}
    (h : selection ∈ s.listed) : s.selected? selection.tool = selection.spool := by
  obtain ⟨id, hid, hspool⟩ := mem_listed_iff.mp h
  rw [selected?, hid, hspool]
  rfl

theorem Store.selected?_of_not_listed {α : Type} {s : Store α} {tool : Nat}
    (h : tool ∉ s.listed.map Selection.tool) : s.selected? tool = none := by
  cases hentry : s.selections[tool]? with
  | none =>
    rw [selected?, hentry]
    rfl
  | some id =>
    have hmem : { tool, spool := s.resolve id } ∈ s.listed := mem_listed_iff.mpr ⟨id, hentry, rfl⟩
    exact absurd (List.mem_map.mpr ⟨_, hmem, rfl⟩) h

namespace Replay

def spoolOn (s : State Float) (tool : Nat) : Option (Spool Float) :=
  s.accounting.registry.slots[tool]?.join

/-- The session after a step, also if it fails. -/
def stepped (s : State Float) (step : Step Float × Nat) : State Float :=
  ((runStep step.2 step.1).run s).2

def afterSteps (s : State Float) (steps : List (Step Float × Nat)) : State Float :=
  steps.foldl stepped s

def Selects (s : State Float) (tool : Nat) (step : Step Float × Nat) : Prop :=
  ∃ id report, step.1 = .select tool (some id) ∧ ((runStep step.2 step.1).run s).1 = .ok report

/-- The store when a program was printed and all of its usage was taken. -/
def booked? (s : State Float) (program : String) : Option (Store Float) :=
  (s.accounting.printed program).finishPrint.1.bind fun usage =>
    match (Usage.sendAll usage).run s.backend with
    | (.ok _, store) => some store
    | (.error _, _) => none

/-- The spool that a step puts on an empty tool without being asked to: a print, if the store has
something to announce after it, brings back what the store has selected. -/
def returned? (s : State Float) (tool : Nat) : Step Float → Option (Spool Float)
  | .print program =>
    (booked? s program).bind fun store =>
      if tool < s.accounting.registry.toolCount ∧
        store.outbox.any Message.requiresRefresh = true then
        store.selected? tool
      else none
  | _ => none

/-- The step puts a spool on the tool if it is empty. -/
def Refills (s : State Float) (tool : Nat) (step : Step Float × Nat) : Prop :=
  Selects s tool step ∨ (returned? s tool step.1).isSome = true

/-! ## Taking over the selections -/

section

variable {s : State Float} {tool : Nat}

/-- The tool, if the printer has it, is empty or holds what the store has selected for it. -/
def Follows (s : State Float) (tool : Nat) : Prop :=
  ∀ slot, s.accounting.registry.slots[tool]? = some slot →
    slot = none ∨ slot = s.backend.selected? tool

theorem push_listed (h : Follows s tool) :
    (s.accounting.registry.push s.backend.listed).2.slots[tool]? =
      s.accounting.registry.slots[tool]?.map fun _ => s.backend.selected? tool := by
  by_cases hlisted : tool ∈ s.backend.listed.map Selection.tool
  · obtain ⟨selection, hmem, rfl⟩ := List.mem_map.mp hlisted
    rw [Registry.push_slots_of_mem s.backend.nodup_listed hmem]
    refine Option.map_congr fun slot hslot => ?_
    rcases h slot hslot with rfl | rfl
    · rw [Registry.overlay_none, Store.selected?_of_listed hmem]
    · rw [Store.selected?_of_listed hmem, Registry.overlay_self]
  · rw [Registry.push_slots_of_not_mem hlisted, Store.selected?_of_not_listed hlisted]
    cases hslot : s.accounting.registry.slots[tool]? with
    | none => rfl
    | some slot =>
      have hempty : slot = none := by
        rcases h slot hslot with hnone | hselected
        · exact hnone
        · rw [hselected, Store.selected?_of_not_listed hlisted]
      rw [hempty]
      rfl

theorem run_sync_of_follows (h : Follows s tool) :
    ∃ outcome t, (Session.sync : Action (State Float) _ _).run s = (.ok outcome, t) ∧
      t.backend = s.backend ∧
      t.accounting.registry.slots[tool]? =
        s.accounting.registry.slots[tool]?.map fun _ => s.backend.selected? tool := by
  obtain ⟨outcome, after, -, hrun, hregistry⟩ := run_sync_ok s
  refine ⟨outcome, { s with accounting := after }, hrun, rfl, ?_⟩
  show after.registry.slots[tool]? = _
  rw [hregistry]
  exact push_listed h

/-- Following messages puts on the tool what the store has selected for it, if one of them is about
a table. -/
theorem run_handleAll_of_follows (messages : List Message) (h : Follows s tool)
    (last : Option (Outcome Float)) :
    ∃ outcome t, (messages.foldlM (fun last message => return (← Session.handle message).or last)
        last : Action (State Float) (Error Float) _).run s = (.ok outcome, t) ∧
      t.backend = s.backend ∧
      t.accounting.registry.slots[tool]? = s.accounting.registry.slots[tool]?.map fun slot =>
        if messages.any Message.requiresRefresh = true then s.backend.selected? tool else slot := by
  induction messages generalizing s last with
  | nil => exact ⟨last, s, rfl, rfl, (congrFun Option.map_id _).symm⟩
  | cons message rest ih =>
    by_cases hrefresh : message.requiresRefresh = true
    · obtain ⟨outcome, t, hsync, hbackend, hslot⟩ := run_sync_of_follows h
      have hfollows : Follows t tool := by
        intro slot ht
        rw [hslot] at ht
        obtain ⟨-, -, rfl⟩ := Option.map_eq_some_iff.mp ht
        exact Or.inr (by rw [hbackend])
      obtain ⟨result, u, hrest, hbackend', hlater⟩ := ih hfollows (outcome.or last)
      refine ⟨result, u, ?_, hbackend'.trans hbackend, ?_⟩
      · rw [run_handleAll_cons ((run_handle hrefresh s).trans hsync)]
        exact hrest
      · rw [hlater, hslot, hbackend, Option.map_map, List.any_cons, hrefresh, Bool.true_or]
        exact Option.map_congr fun slot _ => ite_self _
    · have hhandle := run_handle_of_not hrefresh s
      obtain ⟨result, u, hrest, hbackend, hlater⟩ := ih h ((none : Option (Outcome Float)).or last)
      refine ⟨result, u, ?_, hbackend, ?_⟩
      · rw [run_handleAll_cons hhandle]
        exact hrest
      · rw [hlater, List.any_cons, Bool.eq_false_iff.mpr hrefresh, Bool.false_or]

end

/-! ## One step -/

section

variable {s : State Float} {tool : Nat}

theorem follows_of_empty (h : spoolOn s tool = none) : Follows s tool := by
  intro slot hslot
  rw [spoolOn, hslot] at h
  exact Or.inl h

theorem stepped_eq (s : State Float) (step : Step Float × Nat) :
    stepped s step = ((perform step.1).run s).2 := by
  unfold stepped runStep
  rw [Action.run_bind]
  cases (perform step.1).run s with
  | mk result t => cases result <;> rfl

theorem runStep_ok {step : Step Float} {result : Option (Outcome Float) × List (Detail Float)}
    {t : State Float} (number : Nat) (h : (perform step).run s = (.ok result, t)) :
    ∃ report, ((runStep number step).run s).1 = .ok report := by
  unfold runStep
  rw [Action.run_bind, h]
  exact ⟨_, rfl⟩

theorem run_report (event : Event Float) (s : State Float) :
    ((perform.report (Session.dispatch event)).run s).2 =
      { s with accounting := ((Accounting.dispatch event).run s.accounting).2 } := by
  unfold perform.report
  rw [Action.run_bind, run_fallible, run_dispatch]
  cases ((Accounting.dispatch event).run s.accounting).1 <;> rfl

/-- The tool is empty in `t`, a session that was reached from `s`, and the store has had no other
spool selected for it since. -/
structure Dropped (s : State Float) (tool : Nat) (t : State Float) : Prop where
  empty : spoolOn t tool = none
  selected : ∀ id, t.backend.selections[tool]? = some (some id) →
    s.backend.selections[tool]? = some (some id)

/-- What a step makes of an empty tool: it puts there what it brings back, which the store has
selected since before the step. -/
structure Kept (s : State Float) (tool : Nat) (back : Option (Spool Float))
    (t : State Float) : Prop where
  spool : spoolOn t tool = back
  backed : ∀ spool, back = some spool → t.backend.selected? tool = some spool
  selected : ∀ id, t.backend.selections[tool]? = some (some id) →
    s.backend.selections[tool]? = some (some id)

theorem kept_of_empty {t : State Float} (hempty : spoolOn t tool = none)
    (hselections : t.backend.selections = s.backend.selections) : Kept s tool none t :=
  ⟨hempty, nofun, fun _ hid => hselections ▸ hid⟩

/-- A step that only reports an event leaves the tool empty if taking the event does. -/
theorem kept_report (h : spoolOn s tool = none) (event : Event Float)
    (htake : ∀ changed b, (Accounting.take event).run s.accounting = (.ok changed, b) →
      b.registry.slots[tool]?.join = none) :
    Kept s tool none ((perform.report (Session.dispatch event)).run s).2 := by
  rw [run_report]
  refine kept_of_empty ?_ rfl
  rcases Accounting.take_cases s.accounting event with ⟨e, hevent⟩ | ⟨changed, b, hevent⟩
  · rw [Accounting.dispatch_error hevent]
    exact h
  · rw [spoolOn, Accounting.dispatch_registry hevent]
    exact htake changed b hevent

theorem kept_report_of_same (h : spoolOn s tool = none) (event : Event Float) {changed : Bool}
    {b : Accounting Float NoticeLog}
    (htake : (Accounting.take event).run s.accounting = (.ok changed, b))
    (hregistry : b.registry = s.accounting.registry) :
    Kept s tool none ((perform.report (Session.dispatch event)).run s).2 := by
  refine kept_report h event fun changed' b' htake' => ?_
  obtain ⟨-, rfl⟩ := Prod.mk.inj (htake.symm.trans htake')
  rw [hregistry]
  exact h

theorem kept_select (h : spoolOn s tool = none) {other number : Nat} {id : Option Nat}
    (hselect : ¬Selects s tool (.select other id, number)) :
    Kept s tool none ((perform (.select other id)).run s).2 := by
  cases run_select s other id with
  | unknownSpool i hlt hid hmissing hrun =>
    rw [run_perform_select hrun]
    exact kept_of_empty h rfl
  | unknownTool hlt hrun =>
    rw [run_perform_select hrun]
    exact kept_of_empty h rfl
  | stored hlt hknown hrun =>
    obtain ⟨outcome, after, hselected, hslots⟩ := run_select_of_stored hlt hrun
    have hperform := run_perform_select hselected
    rw [hperform]
    by_cases hother : other = tool
    · subst hother
      cases id with
      | none =>
        refine ⟨?_, nofun, fun i hi => ?_⟩
        · show after.registry.slots[other]?.join = none
          rw [hslots, List.getElem?_set_self hlt]
          rfl
        · have hcleared : (s.backend.selections.insert other none)[other]? = some (some i) := hi
          rw [Std.TreeMap.getElem?_insert_self] at hcleared
          cases hcleared
      | some i =>
        obtain ⟨report, hreport⟩ := runStep_ok number hperform
        exact absurd ⟨i, report, rfl, hreport⟩ hselect
    · refine ⟨?_, nofun, fun i hi => ?_⟩
      · show after.registry.slots[tool]?.join = none
        rw [hslots, List.getElem?_set_ne hother]
        exact h
      · have hinsert : (s.backend.selections.insert other id)[tool]? = some (some i) := hi
        rwa [Std.TreeMap.getElem?_insert, if_neg (Nat.compare_eq_eq.not.mpr hother)] at hinsert

theorem kept_print (h : spoolOn s tool = none) (program : String) :
    Kept s tool (returned? s tool (.print program)) ((runPrint program).run s).2 := by
  have hsent : ∀ store, spoolOn (sent s program store) tool = none := by
    intro store
    rw [spoolOn, (sent_frame s program store).1]
    exact h
  cases hfinish : (s.accounting.printed program).finishPrint.1 with
  | none =>
    have hbooked : booked? s program = none := by
      rw [booked?, hfinish]
      rfl
    rw [run_runPrint_unbookable hfinish, returned?, hbooked]
    exact kept_of_empty (hsent s.backend) rfl
  | some usage =>
    have hselections := Usage.selections_sendAll s.backend usage
    cases hsend : (Usage.sendAll usage).run s.backend with
    | mk answer store =>
      rw [hsend] at hselections
      cases answer with
      | error e =>
        have hbooked : booked? s program = none := by
          rw [booked?, hfinish, Option.bind_some, hsend]
        rw [run_runPrint_error hfinish hsend, returned?, hbooked]
        exact kept_of_empty (hsent store) hselections
      | ok saved =>
        have hbooked : booked? s program = some store := by
          rw [booked?, hfinish, Option.bind_some, hsend]
        obtain ⟨outcome, t, hfollow, hbackend, hslot⟩ :=
          run_handleAll_of_follows store.outbox (follows_of_empty (hsent store.drain.2)) none
        obtain ⟨details, hrun⟩ := run_runPrint_ok hfinish hsend hfollow
        have hselected : t.backend.selected? tool = store.selected? tool := by
          rw [hbackend]
          rfl
        have hreturned : returned? s tool (.print program) =
            if tool < s.accounting.registry.toolCount ∧
                store.outbox.any Message.requiresRefresh = true then
              store.selected? tool
            else none := by
          rw [returned?, hbooked, Option.bind_some]
        rw [hrun]
        refine ⟨?_, fun spool hspool => ?_, fun id hid => ?_⟩
        · rw [hreturned, spoolOn, hslot, (sent_frame s program store.drain.2).1]
          by_cases hlt : tool < s.accounting.registry.toolCount
          · have hempty : s.accounting.registry.slots[tool]? = some none := by
              rw [spoolOn, List.getElem?_eq_getElem hlt, Option.join_some] at h
              rw [List.getElem?_eq_getElem hlt, h]
            rw [hempty]
            simp only [hlt, true_and]
            rfl
          · rw [if_neg fun hboth => hlt hboth.1, List.getElem?_eq_none (Nat.not_lt.mp hlt)]
            rfl
        · rw [hreturned] at hspool
          split at hspool
          · exact hselected.trans hspool
          · cases hspool
        · rw [hbackend] at hid
          exact hselections ▸ hid

/-- A step that selects no spool for an empty tool leaves it empty, unless the step is a print after
which the session takes over what the store has selected. -/
theorem kept_stepped (h : spoolOn s tool = none) {step : Step Float × Nat}
    (hselect : ¬Selects s tool step) : Kept s tool (returned? s tool step.1) (stepped s step) := by
  obtain ⟨step, number⟩ := step
  rw [stepped_eq]
  cases step with
  | toolCount count =>
    refine kept_report h (.toolCountChanged count) fun changed b htake => ?_
    cases Accounting.taken_of_run htake with
    | @resized _ _ registry _ hresize =>
      rw [Option.eq_none_iff_forall_ne_some]
      intro spool hspool
      have hresized : (s.accounting.registry.resize count).2.slots[tool]? = some (some spool) := by
        rw [hresize]
        exact Option.join_eq_some_iff.mp hspool
      rw [spoolOn, Registry.resize_slots hresized] at h
      cases h
  | select other id => exact kept_select h hselect
  | file name => exact kept_report_of_same h (.fileChanged name) rfl rfl
  | telemetry filament => exact kept_report_of_same h (.telemetryChanged filament) rfl rfl
  | closeNotice id => exact kept_report_of_same h (.noticeClosed id) rfl rfl
  | confirm answers => exact kept_of_empty h rfl
  | print program => exact kept_print h program

end

/-! ## Runs -/

theorem afterSteps_snoc (s : State Float) (steps : List (Step Float × Nat))
    (step : Step Float × Nat) :
    afterSteps s (steps ++ [step]) = stepped (afterSteps s steps) step :=
  List.foldl_concat ..

theorem dropped_toolCount (s : State Float) {tool count : Nat} (hmax : count ≤ 64)
    (hdropped : count ≤ tool) (number : Nat) :
    Dropped s tool (stepped s (.toolCount count, number)) := by
  rw [stepped_eq]
  show Dropped s tool ((perform.report (Session.dispatch (.toolCountChanged count))).run s).2
  rw [run_report]
  refine ⟨?_, fun id hid => hid⟩
  have hgone : (s.accounting.registry.resize count).2.slots.length ≤ tool :=
    (Registry.toolCount_resize s.accounting.registry count).trans_le hdropped
  rw [spoolOn, Accounting.dispatch_registry (Accounting.run_take_toolCountChanged_of_le hmax),
    List.getElem?_eq_none hgone]
  rfl

/-- An empty tool stays empty while no step puts a spool on it. -/
theorem dropped_afterSteps {s t : State Float} {tool : Nat} (h : Dropped s tool t)
    {steps : List (Step Float × Nat)}
    (hsteps : ∀ earlier step, earlier ++ [step] <+: steps →
    ¬Refills (afterSteps t earlier) tool step) :
    Dropped s tool (afterSteps t steps) := by
  induction steps using List.reverseRecOn with
  | nil => exact h
  | append_singleton earlier step ih =>
    obtain ⟨hselect, hreturned⟩ := not_or.mp (hsteps earlier step List.prefix_rfl)
    have hearlier : Dropped s tool (afterSteps t earlier) :=
      ih fun now next hnow => hsteps now next (hnow.trans (List.prefix_append earlier [step]))
    have hkept := kept_stepped hearlier.empty hselect
    rw [afterSteps_snoc]
    exact ⟨hkept.spool.trans (Option.not_isSome_iff_eq_none.mp hreturned),
      fun id hid => hearlier.selected id (hkept.selected id hid)⟩

/-- After a step with which the printer has too few tools to have `tool`, that tool is empty after
all further steps, until a spool is selected for it with success or a print brings one back. The
next step that does not select one leaves on it exactly what such a print brings back. That can only
be the spool that the store had selected for the tool when it was dropped, as it is stored now. -/
theorem dropped_tool_empty {s : State Float} {tool count number : Nat} (hmax : count ≤ 64)
    (hdropped : count ≤ tool) {later : List (Step Float × Nat)}
    (hlater : ∀ earlier step, earlier ++ [step] <+: later →
      ¬Refills (afterSteps (stepped s (.toolCount count, number)) earlier) tool step) :
    let t := afterSteps (stepped s (.toolCount count, number)) later
    spoolOn t tool = none ∧
      ∀ step, ¬Selects t tool step →
        spoolOn (stepped t step) tool = returned? t tool step.1 ∧
        ∀ spool, returned? t tool step.1 = some spool →
          ∃ id, s.backend.selections[tool]? = some (some id) ∧
            (stepped t step).backend.spools[id]? = some spool := by
  intro t
  have ht : Dropped s tool t := dropped_afterSteps (dropped_toolCount s hmax hdropped number) hlater
  refine ⟨ht.empty, fun step hselect => ?_⟩
  have hkept := kept_stepped ht.empty hselect
  refine ⟨hkept.spool, fun spool hspool => ?_⟩
  obtain ⟨entry, hentry, hresolve⟩ := Option.bind_eq_some_iff.mp (hkept.backed spool hspool)
  obtain ⟨id, rfl, hstored⟩ := Option.bind_eq_some_iff.mp hresolve
  exact ⟨id, ht.selected id (hkept.selected id hentry), hstored⟩

/-- A session with a spool on each of its two tools. -/
def bothMounted (s : Scenario Float) : State Float :=
  afterSteps (ofScenario s) [(.toolCount 2, 1), (.select 0 (some 1), 2), (.select 1 (some 2), 3)]

theorem dropped_tool_empty_twoSpools :
    1 ≤ 64 ∧ 1 ≤ 1 ∧
      spoolOn (afterSteps (stepped (bothMounted twoSpools) (.toolCount 1, 4))
        [(.toolCount 2, 5), (.file (some "benchy"), 6)]) 1 = none := by
  have hlater : ∀ earlier step,
      earlier ++ [step] <+: [(.toolCount 2, 5), (.file (some "benchy"), 6)] →
      ¬Refills (afterSteps (stepped (bothMounted twoSpools) (.toolCount 1, 4)) earlier) 1 step := by
    rintro earlier step hprefix hrefills
    have hmem : step ∈ [(.toolCount 2, 5), (.file (some "benchy"), 6)] :=
      hprefix.subset (List.mem_append_right earlier (List.mem_singleton_self step))
    simp only [List.mem_cons, List.not_mem_nil, or_false] at hmem
    rcases hmem with rfl | rfl
    all_goals
      rcases hrefills with ⟨id, report, hselect, -⟩ | hreturned
      · cases hselect
      · cases hreturned
  exact ⟨by decide, by decide, (dropped_tool_empty (by decide) (by decide) hlater).1⟩

/-- Of two tools with a spool each, the second one is dropped and comes back. It is empty then, but
a print with the first one brings its spool back, though none was selected. -/
theorem dropped_tool_returns :
    1 < (bothMounted twoSpools).accounting.registry.toolCount ∧
      spoolOn (afterSteps (stepped (bothMounted twoSpools) (.toolCount 1, 4)) [(.toolCount 2, 5)])
        1 = none ∧
      (spoolOn (afterSteps (stepped (bothMounted twoSpools) (.toolCount 1, 4))
        [(.toolCount 2, 5), (.print "M83\nG1 E1000", 6)]) 1).map Spool.id = some (some 2) := by
  decide +kernel

end Replay
end Filament
