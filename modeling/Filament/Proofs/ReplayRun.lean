import Mathlib.Data.List.Induction
import Filament.Proofs.ReplayStep

/-!
Replays of valid scenarios.

A valid scenario starts a settled session, and every step keeps it settled, so after any number of
steps, also with changes to the store among them, the spools in the registry are those that the
store has selected, as they are stored (`registry_follows_store`). The notices on the reports of a
replay are all that were shown, each once and in order (`notices_reported`), for every step reports
what it shows.
-/

namespace Filament

/-! ## Valid scenarios -/

namespace Scenario

variable {α : Type}

theorem enter_eq_ok {kind label : String} {before after : List Nat} {own : Option Nat}
    (h : (enter kind label before own : Except (ScenarioError α) _) = .ok after) :
    ∃ id, own = some id ∧ id ∉ before ∧ after = id :: before := by
  unfold enter at h
  cases own with
  | none => cases h
  | some id =>
    dsimp only at h
    split at h
    · cases h
    · split at h
      · cases h
      · rename_i hnew
        exact ⟨id, rfl, fun hmem => hnew (List.contains_iff_mem.mpr hmem), (Except.ok.inj h).symm⟩

/-- If entries are entered one by one, each for an id that was not there before, all of them have
ids, and these are different. -/
theorem entered {γ : Type} {P : γ → Prop} {own : γ → Option Nat}
    {f : List Nat → γ → Except (ScenarioError α) (List Nat)}
    (hf : ∀ {before after x}, f before x = .ok after →
      P x ∧ ∃ id, own x = some id ∧ id ∉ before ∧ after = id :: before)
    {entries : List γ} {before after : List Nat} (h : entries.foldlM f before = .ok after) :
    (∀ x ∈ entries, P x ∧ (own x).isSome = true) ∧
      after = (entries.filterMap own).reverse ++ before ∧ (before.Nodup → after.Nodup) := by
  induction entries generalizing before with
  | nil =>
    obtain rfl : before = after := Except.ok.inj h
    exact ⟨List.forall_mem_nil _, rfl, fun hnodup => hnodup⟩
  | cons first rest ih =>
    rw [List.foldlM_cons, bind_eq_ok] at h
    obtain ⟨between, hfirst, hrest⟩ := h
    obtain ⟨hone, id, hid, hnew, rfl⟩ := hf hfirst
    obtain ⟨hall, hafter, hnodup⟩ := ih hrest
    refine ⟨?_, ?_, fun hbefore => hnodup (List.nodup_cons.mpr ⟨hnew, hbefore⟩)⟩
    · rw [List.forall_mem_cons]
      exact ⟨⟨hone, Option.isSome_iff_exists.mpr ⟨id, hid⟩⟩, hall⟩
    · rw [hafter, List.filterMap_cons_some hid, List.reverse_cons, List.append_assoc]
      rfl

variable [Scalar α]

theorem enterProfile_eq_ok {before after : List Nat} {p : Profile α}
    (h : enterProfile before p = .ok after) :
    p.accept = .ok () ∧ ∃ id, p.id = some id ∧ id ∉ before ∧ after = id :: before := by
  obtain ⟨haccept, henter⟩ := bind_unit_eq_ok.mp h
  exact ⟨mapError_eq_ok.mp haccept, enter_eq_ok henter⟩

theorem enterSpool_eq_ok {before after : List Nat} {spool : Spool α}
    (h : enterSpool before spool = .ok after) :
    spool.check = .ok () ∧ ∃ id, spool.id = some id ∧ id ∉ before ∧ after = id :: before := by
  obtain ⟨haccept, henter⟩ := bind_unit_eq_ok.mp h
  exact ⟨mapError_eq_ok.mp (mapError_eq_ok.mp haccept), enter_eq_ok henter⟩

theorem forM_eq_ok {ε β : Type} {f : β → Except ε Unit} {xs : List β} (h : xs.forM f = .ok ()) :
    ∀ x ∈ xs, f x = .ok () := by
  induction xs with
  | nil => exact List.forall_mem_nil _
  | cons x rest ih =>
    obtain ⟨hfirst, hrest⟩ := bind_unit_eq_ok.mp h
    rw [List.forall_mem_cons]
    exact ⟨hfirst, ih hrest⟩

theorem parts_of_check {s : Scenario α} (h : s.check = .ok ()) :
    (∃ ids, s.profiles.foldlM enterProfile [] = .ok ids) ∧
      ∃ ids, s.spools.foldlM enterSpool [] = .ok ids ∧
        (s.steps.zipIdx 1).forM (fun step => checkStep ids step.2 step.1) = .ok () := by
  unfold check at h
  rw [bind_unit_eq_ok] at h
  obtain ⟨-, hentries⟩ := h
  rw [bind_eq_ok] at hentries
  obtain ⟨profiles, hprofiles, hentries⟩ := hentries
  rw [bind_eq_ok] at hentries
  exact ⟨⟨profiles, hprofiles⟩, hentries⟩

/-- All entries of a valid scenario have ids, and no two of a list the same. -/
theorem ids_of_check {s : Scenario α} (h : s.check = .ok ()) :
    ((∀ p ∈ s.profiles, p.id.isSome = true) ∧ (s.profiles.filterMap Profile.id).Nodup) ∧
      (∀ spool ∈ s.spools, spool.id.isSome = true) ∧ (s.spools.filterMap Spool.id).Nodup := by
  obtain ⟨⟨profileIds, hprofiles⟩, spoolIds, hspools, -⟩ := parts_of_check h
  obtain ⟨hvalid, rfl, hdistinct⟩ := entered enterProfile_eq_ok hprofiles
  obtain ⟨hvalid', rfl, hdistinct'⟩ := entered enterSpool_eq_ok hspools
  have hnodup := hdistinct List.nodup_nil
  have hnodup' := hdistinct' List.nodup_nil
  rw [List.append_nil, List.nodup_reverse] at hnodup hnodup'
  exact ⟨⟨fun p hp => (hvalid p hp).2, hnodup⟩, fun spool hspool => (hvalid' spool hspool).2,
    hnodup'⟩

/-- A valid scenario has valid spools with ids, and its steps select no others. -/
theorem spools_of_check {s : Scenario α} (h : s.check = .ok ()) :
    (∀ spool ∈ s.spools, spool.check = .ok () ∧ spool.id.isSome = true) ∧
      ∀ (tool id : Nat), Step.select tool (some id) ∈ s.steps →
        ∃ spool ∈ s.spools, spool.id = some id := by
  obtain ⟨-, ids, hspools, hsteps⟩ := parts_of_check h
  obtain ⟨hvalid, rfl, -⟩ := entered enterSpool_eq_ok hspools
  refine ⟨hvalid, fun tool id hstep => ?_⟩
  rw [← List.zipIdx_map_fst 1 s.steps] at hstep
  obtain ⟨⟨step, number⟩, hmem, rfl⟩ := List.mem_map.mp hstep
  have hchecked := forM_eq_ok hsteps _ hmem
  simp only [checkStep] at hchecked
  split at hchecked
  · rename_i hknown
    rw [List.append_nil, List.contains_reverse, List.contains_iff_mem, List.mem_filterMap] at hknown
    exact hknown
  · cases hchecked

end Scenario

namespace Replay

theorem settled_ofScenario {s : Scenario Float} (h : s.check = .ok ()) :
    Settled (ofScenario s) := by
  obtain ⟨hvalid, -⟩ := Scenario.spools_of_check h
  obtain ⟨hsound, -, houtbox, -⟩ := Store.ofSeeds_sound hvalid s.profiles
  refine ⟨hsound, houtbox, ⟨rfl, rfl⟩, ?_⟩
  intro tool spool hslot
  cases hslot

/-! ## Steps and changes in a row -/

theorem runStep_cases {s : State Float} (hs : Settled s) (number : Nat) (step : Step Float) :
    (∃ outcome report t, (runStep number step).run s = (.ok report, t) ∧ Done s step outcome t ∧
      report.notice = outcome.bind Outcome.notice) ∨
    ∃ e t, (runStep number step).run s = (.error e, t) ∧ Refused s step e := by
  unfold runStep
  rw [Action.run_bind]
  rcases perform_cases hs step with ⟨outcome, details, t, hrun, hdone⟩ | ⟨e, t, hrun, hrefused⟩
  · left
    rw [hrun]
    exact ⟨outcome, _, t, rfl, hdone, rfl⟩
  · right
    rw [hrun]
    exact ⟨e, t, rfl, hrefused⟩

/-- What happens to a session: a step, or a change to the store behind it. -/
inductive Move where
  | step (number : Nat) (step : Step Float)
  | change (c : Change Float)

/-- Asks the store for a change, and follows the messages about it. -/
def amend (c : Change Float) : Action (State Float) (Error Float) (Option (Outcome Float)) := do
  modify fun s => { s with backend := s.backend.change c }
  let messages ← modifyGet fun s =>
    let (messages, backend) := s.backend.drain
    (messages, { s with backend })
  handleAll messages

/-- The session after a move, none if a step of it fails. -/
def follow? (s : State Float) : Move → Option (State Float)
  | .step number step =>
    match (runStep number step).run s with
    | (.ok _, t) => some t
    | (.error _, _) => none
  | .change c => some ((amend c).run s).2

theorem settled_amend {s : State Float} (hs : Settled s) (c : Change Float) :
    Settled ((amend c).run s).2 := by
  have hannounced : s.backend.Announced (s.backend.change c) :=
    Store.announced_change (Store.announced_refl hs.sound hs.quiet) c
  obtain ⟨outcome, t, hrun, hreported, -, -⟩ := run_handleAll hs hannounced
  have hamend : (amend c).run s = (handleAll (s.backend.change c).outbox).run
      { s with backend := (s.backend.change c).drain.2 } := by
    unfold amend
    rw [Action.run_bind, Action.run_modify]
    dsimp only
    rw [Action.run_bind, Action.run_modifyGet]
    rfl
  rw [hamend, hrun]
  exact hreported.settled

theorem settled_follow? {s t : State Float} (hs : Settled s) {move : Move}
    (h : follow? s move = some t) : Settled t := by
  cases move with
  | step number step =>
    dsimp only [follow?] at h
    rcases runStep_cases hs number step with ⟨outcome, report, u, hrun, hdone, -⟩ | ⟨e, u, hrun, -⟩
    · rw [hrun] at h
      obtain rfl := Option.some.inj h
      exact hdone.settled
    · rw [hrun] at h
      cases h
  | change c =>
    obtain rfl := Option.some.inj h
    exact settled_amend hs c

theorem settled_moves {s t : State Float} (hs : Settled s) {moves : List Move}
    (h : moves.foldlM follow? s = some t) : Settled t := by
  induction moves generalizing s with
  | nil =>
    obtain rfl := Option.some.inj h
    exact hs
  | cons move rest ih =>
    rw [List.foldlM_cons, Option.bind_eq_bind, Option.bind_eq_some_iff] at h
    obtain ⟨u, hmove, hrest⟩ := h
    exact ih (settled_follow? hs hmove) hrest

/-- After steps that all succeed, and changes to the store among them, every tool of the printer has
no spool or the one that the store has selected for it, as it is stored. -/
theorem registry_follows_store (scenario : Scenario Float) (hcheck : scenario.check = .ok ())
    (moves : List Move) (s : State Float)
    (hmoves : moves.foldlM follow? (ofScenario scenario) = some s) (tool : Nat)
    (htool : tool < s.accounting.registry.toolCount) :
    s.accounting.registry.get tool = .ok none ∨
    ∃ spool id stored, s.accounting.registry.get tool = .ok (some spool) ∧ spool.id = some id ∧
      s.backend.selections[tool]? = some (some id) ∧ s.backend.spools[id]? = some stored ∧
      (spool == stored) = true := by
  have hs : Settled s := settled_moves (settled_ofScenario hcheck) hmoves
  have hslot : s.accounting.registry.slots[tool]? = some s.accounting.registry.slots[tool] :=
    List.getElem?_eq_getElem htool
  have hget : s.accounting.registry.get tool = .ok s.accounting.registry.slots[tool] := by
    unfold Registry.get
    rw [hslot]
  cases hspool : s.accounting.registry.slots[tool] with
  | none => exact Or.inl (hget.trans (congrArg Except.ok hspool))
  | some spool =>
    right
    rw [hspool] at hslot
    obtain ⟨-, id, stored, hid, hselected, hstored, hsame⟩ := hs.fits tool spool hslot
    exact ⟨spool, id, stored, hget.trans (congrArg Except.ok hspool), hid, hselected,
      hstored, hsame⟩

def pla : Profile Float where
  id := some 1
  vendor := "Acme"
  material := "PLA"
  density := 1.25
  diameter := 1.75

/-- A session with two spools, one for each tool. The loaded job needs more than the first one
holds. -/
def twoSpools : Scenario Float where
  settings := Settings.standard
  profiles := [pla]
  spools := [
    { id := some 1, name := "Black", profile := pla, cost := 20, weight := 1000, used := 0,
      tempOffset := 0 },
    { id := some 2, name := "White", profile := pla, cost := 20, weight := 1000, used := 0,
      tempOffset := 0 }]
  steps := [.toolCount 2, .select 0 (some 1), .select 1 (some 2),
    .telemetry [{ label := "tool0", length := 400000 }], .print "M83\nT0\nG1 E1000\nT1\nG1 E1000"]

theorem twoSpools_check : twoSpools.check = .ok () :=
  eq_ok_of_toBool (by decide +kernel)

/-- A spool on the first tool, a change to its material, and a print with it. -/
def remadeAndPrinted : List Move :=
  [.step 1 (.toolCount 2), .step 2 (.select 0 (some 1)),
    .change (.updateProfile 1 { pla with density := 1.5 }), .step 3 (.print "M83\nG1 E1000")]

theorem registry_follows_store_twoSpools :
    twoSpools.check = .ok () ∧ ∃ s,
      remadeAndPrinted.foldlM follow? (ofScenario twoSpools) = some s ∧
      0 < s.accounting.registry.toolCount ∧
      ∃ spool id stored, s.accounting.registry.get 0 = .ok (some spool) ∧ spool.id = some id ∧
        s.backend.selections[0]? = some (some id) ∧ s.backend.spools[id]? = some stored ∧
        (spool == stored) = true := by
  have hmounted : ((remadeAndPrinted.foldlM follow? (ofScenario twoSpools)).bind fun s =>
      s.accounting.registry.slots[0]?.join).isSome = true := by
    decide +kernel
  obtain ⟨spool, hspool⟩ := Option.isSome_iff_exists.mp hmounted
  obtain ⟨s, hmoves, hslot⟩ := Option.bind_eq_some_iff.mp hspool
  have hslot : s.accounting.registry.slots[0]? = some (some spool) :=
    Option.join_eq_some_iff.mp hslot
  obtain ⟨htool, -⟩ := List.getElem?_eq_some_iff.mp hslot
  refine ⟨twoSpools_check, s, hmoves, htool, ?_⟩
  rcases registry_follows_store twoSpools twoSpools_check remadeAndPrinted s hmoves 0 htool with
    hnone | hsome
  · have hget : s.accounting.registry.get 0 = .ok (some spool) := by
      unfold Registry.get
      rw [hslot]
    rw [hget] at hnone
    cases hnone
  · exact hsome

/-! ## Whole replays -/

/-- How far the first steps of a scenario come. -/
def progressOf (s : Scenario Float) (steps : List (Step Float)) : Progress Float :=
  progress { s with steps }

theorem progressOf_snoc (s : Scenario Float) (steps : List (Step Float)) (step : Step Float) :
    progressOf s (steps ++ [step]) = (progressOf s steps).advance (step, 1 + steps.length) := by
  unfold progressOf progress
  rw [List.zipIdx_append, List.foldl_append]
  rfl

/-- The tools of the printer after steps: those of the latest count, none before the first. -/
def latestCount (steps : List (Step Float)) : Nat := steps.foldl Step.countAfter 0

theorem latestCount_snoc (steps : List (Step Float)) (step : Step Float) :
    latestCount (steps ++ [step]) = step.countAfter (latestCount steps) := by
  unfold latestCount
  rw [List.foldl_append]
  rfl

/-- A replay that has come this far without a failure. -/
structure Underway (s : Scenario Float) (steps : List (Step Float)) (p : Progress Float) :
    Prop extends Settled p.state where
  unfailed : p.failure = none
  toolCount : p.state.accounting.registry.toolCount = latestCount steps
  stored : ∀ spool ∈ s.spools, ∀ id, spool.id = some id →
    p.state.backend.spools.contains id = true
  wide : (∀ spool ∈ s.spools, spool.profile.IsWide) → p.state.backend.Holds Profile.IsWide
  notices : p.reports.filterMap Report.notice = p.state.accounting.watch.notifier.shownIds

theorem underway_nil {s : Scenario Float} (h : s.check = .ok ()) :
    Underway s [] (progressOf s []) := by
  obtain ⟨hvalid, -⟩ := Scenario.spools_of_check h
  obtain ⟨-, -, -, hstored⟩ := Store.ofSeeds_sound hvalid s.profiles
  have hstart : Settled (ofScenario s) := settled_ofScenario h
  exact ⟨hstart, rfl, rfl, hstored, fun hwide => Store.ofSeeds_holds hwide s.profiles, rfl⟩

/-- One more step of a replay is done, or ends it for a cause. -/
theorem advance_cases {s : Scenario Float} {steps : List (Step Float)} {p : Progress Float}
    (hp : Underway s steps p) (step : Step Float) (number : Nat) :
    Underway s (steps ++ [step]) (p.advance (step, number)) ∧
        step.offence? (latestCount steps) = none ∧
        (∃ report t, (runStep number step).run p.state = (.ok report, t)) ∨
    ∃ e, (p.advance (step, number)).failure = some e ∧ Refused p.state step e := by
  unfold Progress.advance
  rw [hp.unfailed]
  rcases runStep_cases hp.toSettled number step with
    ⟨outcome, report, t, hrun, hdone, hnotice⟩ | ⟨e, t, hrun, hrefused⟩
  · left
    dsimp only
    rw [hrun]
    refine ⟨⟨hdone.settled, rfl, ?_, ?_, ?_, ?_⟩, hp.toolCount ▸ hdone.allowed, report, t, rfl⟩
    · rw [latestCount_snoc, ← hp.toolCount]
      exact hdone.toolCount
    · exact fun spool hspool id hid => hdone.stored id (hp.stored spool hspool id hid)
    · exact fun hwide => hdone.wide (hp.wide hwide)
    · show (p.reports ++ [report]).filterMap Report.notice = _
      rw [List.filterMap_append, hp.notices, hdone.shown, ← hnotice]
      cases hreport : report.notice with
      | none => simp [hreport]
      | some id => simp [hreport]
  · right
    dsimp only
    rw [hrun]
    exact ⟨e, rfl, hrefused⟩

theorem advance_failure {p : Progress Float} {e : StepError Float} (h : p.failure = some e)
    (step : Step Float × Nat) : p.advance step = p := by
  unfold Progress.advance
  rw [h]

theorem underway_progressOf {s : Scenario Float} (hcheck : s.check = .ok ())
    (steps : List (Step Float)) (h : (progressOf s steps).failure = none) :
    Underway s steps (progressOf s steps) := by
  -- From the end, for a failure on the way would still be there.
  induction steps using List.reverseRecOn with
  | nil => exact underway_nil hcheck
  | append_singleton steps step ih =>
    rw [progressOf_snoc] at h ⊢
    cases hbefore : (progressOf s steps).failure with
    | some e =>
      rw [advance_failure hbefore, hbefore] at h
      cases h
    | none =>
      rcases advance_cases (ih hbefore) step (1 + steps.length) with ⟨hnext, -⟩ | ⟨e, hfailure, -⟩
      · exact hnext
      · rw [hfailure] at h
        cases h

/-- The notices on the reports of a replay are all that were shown, in the order in which they were
shown, and they are numbered from one on. -/
theorem notices_reported (scenario : Scenario Float) (hcheck : scenario.check = .ok ())
    (reports : List (Report Float)) (s : State Float) (hrun : run scenario = .ok (reports, s)) :
    reports.filterMap Report.notice = s.accounting.watch.notifier.shownIds ∧
    s.accounting.watch.notifier.shownIds =
      List.range' 1 s.accounting.watch.notifier.shownIds.length := by
  unfold run at hrun
  dsimp only at hrun
  cases hfailure : (progress scenario).failure with
  | some e =>
    rw [hfailure] at hrun
    cases hrun
  | none =>
    rw [hfailure] at hrun
    obtain ⟨rfl, rfl⟩ := Prod.mk.inj (Except.ok.inj hrun)
    have hend : Underway scenario scenario.steps (progress scenario) :=
      underway_progressOf hcheck scenario.steps hfailure
    exact ⟨hend.notices, hend.counted.1⟩

/-- The notice about the loaded job, and the one after the print, which books on two spools. -/
theorem notices_reported_twoSpools :
    twoSpools.check = .ok () ∧ ∃ reports s, run twoSpools = .ok (reports, s) ∧
      reports.filterMap Report.notice = s.accounting.watch.notifier.shownIds ∧
      s.accounting.watch.notifier.shownIds = [1, 2] := by
  have hnotices : (run twoSpools).toOption.map (fun result => result.1.filterMap Report.notice) =
      some [1, 2] := by decide +kernel
  refine ⟨twoSpools_check, ?_⟩
  cases hrun : run twoSpools with
  | error e =>
    rw [hrun] at hnotices
    cases hnotices
  | ok result =>
    obtain ⟨reports, s⟩ := result
    obtain ⟨hshown, -⟩ := notices_reported twoSpools twoSpools_check reports s hrun
    rw [hrun] at hnotices
    refine ⟨reports, s, rfl, hshown, ?_⟩
    rw [← hshown]
    exact Option.some.inj hnotices

end Replay
end Filament
