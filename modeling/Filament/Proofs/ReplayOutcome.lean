import Filament.Proofs.ReplayRun

/-!
Which replays succeed.

A valid scenario is replayed to its end unless a step asks for more tools than a printer may have,
or puts a spool on a tool that the printer does not have at that point; the first such step ends the
replay with its error (`run_ok_iff`). All other steps succeed wherever they are reached, prints too
as long as the masses that they book are numbers; they are unless half of a diameter is zero
(`massesAreNumbers_of_wide`). The argument goes along the steps: each one that is reached finds the
session settled, with the latest count of tools and with every spool of the scenario still stored.
-/

namespace Filament
namespace Replay

/-- Every mass that finishing a print of the replay computes is a number. -/
def MassesAreNumbers (s : Scenario Float) : Prop :=
  ∀ (i : Nat) (program : String), s.steps[i]? = some (.print program) →
    (progressOf s (s.steps.take i)).failure = none →
    ∀ mass ∈ ((progressOf s (s.steps.take i)).state.accounting.printed program).bookedMasses,
      mass.isNaN = false

/-- No mass is anything but a number if every material is wide. -/
theorem massesAreNumbers_of_wide {s : Scenario Float} (hcheck : s.check = .ok ())
    (hwide : ∀ spool ∈ s.spools, spool.profile.IsWide) : MassesAreNumbers s := by
  intro i program _ hreached
  have hunderway := underway_progressOf hcheck (s.steps.take i) hreached
  exact Accounting.bookedMasses_of_wide
    (wide_of_fits hunderway.fits (hunderway.wide hwide)) program

theorem take_succ_of_getElem? {α : Type} {xs : List α} {i : Nat} {x : α} (h : xs[i]? = some x) :
    xs.take (i + 1) = xs.take i ++ [x] ∧ (xs.take i).length = i := by
  obtain ⟨hlt, hget⟩ := List.getElem?_eq_some_iff.mp h
  refine ⟨?_, List.length_take_of_le hlt.le⟩
  rw [List.take_succ_eq_append_getElem hlt, hget]

theorem progressOf_failure {s : Scenario Float} {steps : List (Step Float)} {e : StepError Float}
    (h : (progressOf s steps).failure = some e) (later : List (Step Float)) :
    (progressOf s (steps ++ later)).failure = some e := by
  induction later using List.reverseRecOn with
  | nil =>
    rw [List.append_nil]
    exact h
  | append_singleton later step ih =>
    rw [← List.append_assoc, progressOf_snoc, advance_failure ih]
    exact ih

/-- What is wrong with the step at a place, on the printer that the steps before it leave. -/
def offenceAt? (steps : List (Step Float)) (i : Nat) : Option (Error Float) :=
  steps[i]?.bind fun step => step.offence? (latestCount (steps.take i))

theorem offenceAt?_eq {steps : List (Step Float)} {i : Nat} {step : Step Float}
    (h : steps[i]? = some step) :
    offenceAt? steps i = step.offence? (latestCount (steps.take i)) := by
  unfold offenceAt?
  rw [h]
  rfl

section

variable {s : Scenario Float} (hcheck : s.check = .ok ()) (hmasses : MassesAreNumbers s)

include hcheck hmasses

/-- A step that is reached succeeds, or ends the replay with what is wrong with it. -/
theorem reached_step {i : Nat} {step : Step Float} (hstep : s.steps[i]? = some step)
    (hreached : (progressOf s (s.steps.take i)).failure = none) :
    ((progressOf s (s.steps.take (i + 1))).failure = none ∧ offenceAt? s.steps i = none ∧
        ∃ report t, (runStep (i + 1) step).run (progressOf s (s.steps.take i)).state =
          (.ok report, t)) ∨
    ∃ e, offenceAt? s.steps i = some e ∧
      (progressOf s (s.steps.take (i + 1))).failure = some (.error e) := by
  obtain ⟨hsucc, hlength⟩ := take_succ_of_getElem? hstep
  have hunderway := underway_progressOf hcheck (s.steps.take i) hreached
  have hnumber : 1 + (s.steps.take i).length = i + 1 := by
    rw [hlength, Nat.add_comm]
  rw [hsucc, progressOf_snoc, hnumber, offenceAt?_eq hstep]
  rcases advance_cases hunderway step (i + 1) with ⟨hnext, hallowed, hrun⟩ | ⟨e, hfailure, hrefused⟩
  · exact Or.inl ⟨hnext.unfailed, hallowed, hrun⟩
  · right
    cases hrefused with
    | offence _ e h =>
      rw [hunderway.toolCount] at h
      exact ⟨e, h, hfailure⟩
    | unknownSpool tool id hlt h =>
      -- Selected spools are spools of the scenario, and these stay stored.
      obtain ⟨-, hselects⟩ := Scenario.spools_of_check hcheck
      obtain ⟨spool, hspool, hid⟩ := hselects tool id (List.mem_of_getElem? hstep)
      have hstored := hunderway.stored spool hspool id hid
      rw [h] at hstored
      cases hstored
    | noMass program e h =>
      obtain ⟨mass, hmass, hnan⟩ := h
      rw [hmasses i program hstep hreached mass hmass] at hnan
      cases hnan

theorem reached_of_no_offence {i : Nat} (hi : i ≤ s.steps.length)
    (h : ∀ j, j < i → offenceAt? s.steps j = none) :
    (progressOf s (s.steps.take i)).failure = none := by
  induction i with
  | zero => exact (underway_nil hcheck).unfailed
  | succ i ih =>
    have hreached := ih (Nat.le_of_succ_le hi) fun j hj => h j (Nat.lt_succ_of_lt hj)
    have hstep : s.steps[i]? = some s.steps[i] := List.getElem?_eq_getElem hi
    rcases reached_step hcheck hmasses hstep hreached with ⟨hnext, -⟩ | ⟨e, hoffence, -⟩
    · exact hnext
    · rw [h i (Nat.lt_succ_self i)] at hoffence
      cases hoffence

theorem run_of_first_offence {i : Nat} {e : Error Float} (hoffence : offenceAt? s.steps i = some e)
    (hfirst : ∀ j, j < i → offenceAt? s.steps j = none) : run s = .error (.error e) := by
  obtain ⟨step, hstep, -⟩ := Option.bind_eq_some_iff.mp hoffence
  obtain ⟨hlt, -⟩ := List.getElem?_eq_some_iff.mp hstep
  have hreached := reached_of_no_offence hcheck hmasses hlt.le hfirst
  rcases reached_step hcheck hmasses hstep hreached with
    ⟨-, hallowed, -⟩ | ⟨e', hoffence', hfailure⟩
  · rw [hallowed] at hoffence
    cases hoffence
  · obtain rfl : e' = e := Option.some.inj (hoffence'.symm.trans hoffence)
    have hend := progressOf_failure hfailure (s.steps.drop (i + 1))
    rw [List.take_append_drop] at hend
    have hprogress : (progress s).failure = some (.error e') := hend
    unfold run
    dsimp only
    rw [hprogress]

theorem run_ok_of_no_offence (h : ∀ i, offenceAt? s.steps i = none) :
    ∃ result, run s = .ok result := by
  have hend := reached_of_no_offence hcheck hmasses (Nat.le_refl s.steps.length) fun j _ => h j
  rw [List.take_length] at hend
  have hprogress : (progress s).failure = none := hend
  unfold run
  dsimp only
  rw [hprogress]
  exact ⟨_, rfl⟩

end

theorem no_offence_or_first (steps : List (Step Float)) :
    (∀ i, offenceAt? steps i = none) ∨
    ∃ i e, offenceAt? steps i = some e ∧ ∀ j, j < i → offenceAt? steps j = none := by
  by_cases hnone : ∀ i, offenceAt? steps i = none
  · exact Or.inl hnone
  · right
    obtain ⟨i, hi⟩ := not_forall.mp hnone
    have hsome : ∃ i, (offenceAt? steps i).isSome = true := ⟨i, Option.isSome_iff_ne_none.mpr hi⟩
    obtain ⟨e, he⟩ := Option.isSome_iff_exists.mp (Nat.find_spec hsome)
    refine ⟨Nat.find hsome, e, he, fun j hj => ?_⟩
    exact Option.not_isSome_iff_eq_none.mp (Nat.find_min hsome hj)

/-- Nothing is wrong with any step exactly if no step counts too many tools and every selection is
for a tool below the latest count. -/
theorem no_offence_iff (steps : List (Step Float)) :
    (∀ i, offenceAt? steps i = none) ↔
      (∀ count, Step.toolCount count ∈ steps → count ≤ maxToolCount) ∧
      ∀ i tool id, steps[i]? = some (.select tool id) → tool < latestCount (steps.take i) := by
  constructor
  · intro h
    refine ⟨fun count hcount => ?_, fun i tool id hstep => ?_⟩
    · obtain ⟨i, hstep⟩ := List.mem_iff_getElem?.mp hcount
      by_contra hmax
      have hoffence : offenceAt? steps i = some (.config (.tooManyTools count)) :=
        (offenceAt?_eq hstep).trans (if_pos (Nat.not_le.mp hmax))
      rw [h i] at hoffence
      cases hoffence
    · by_contra hlt
      have hoffence : offenceAt? steps i = some (.outOfRange tool (latestCount (steps.take i))) :=
        (offenceAt?_eq hstep).trans (if_neg hlt)
      rw [h i] at hoffence
      cases hoffence
  · rintro ⟨hcounts, hselects⟩ i
    cases hstep : steps[i]? with
    | none =>
      unfold offenceAt?
      rw [hstep]
      rfl
    | some step =>
      rw [offenceAt?_eq hstep]
      cases step with
      | toolCount count =>
        exact if_neg (Nat.not_lt.mpr (hcounts count (List.mem_of_getElem? hstep)))
      | select tool id => exact if_pos (hselects i tool id hstep)
      | _ => rfl

/-- Unless a mass that is to be booked is no number, the replay of a valid scenario succeeds exactly
if no step counts too many tools and every selection is for a tool below the latest count. Otherwise
it fails with what is wrong with the first step that does not keep to this. Any other step that is
reached succeeds. -/
theorem run_ok_iff (s : Scenario Float) (hcheck : s.check = .ok ()) (hmasses : MassesAreNumbers s) :
    ((∃ result, run s = .ok result) ↔
      (∀ count, Step.toolCount count ∈ s.steps → count ≤ maxToolCount) ∧
      ∀ i tool id, s.steps[i]? = some (.select tool id) → tool < latestCount (s.steps.take i)) ∧
    (∀ i e, offenceAt? s.steps i = some e → (∀ j, j < i → offenceAt? s.steps j = none) →
      run s = .error (.error e)) ∧
    ∀ i step, s.steps[i]? = some step → (progressOf s (s.steps.take i)).failure = none →
      offenceAt? s.steps i = none →
      ∃ report t, (runStep (i + 1) step).run (progressOf s (s.steps.take i)).state =
        (.ok report, t) := by
  refine ⟨?_, ?_, ?_⟩
  · rw [← no_offence_iff]
    constructor
    · rintro ⟨result, hrun⟩
      rcases no_offence_or_first s.steps with hnone | ⟨i, e, hoffence, hfirst⟩
      · exact hnone
      · rw [run_of_first_offence hcheck hmasses hoffence hfirst] at hrun
        cases hrun
    · exact run_ok_of_no_offence hcheck hmasses
  · intro i e hoffence hfirst
    exact run_of_first_offence hcheck hmasses hoffence hfirst
  · intro i step hstep hreached hallowed
    rcases reached_step hcheck hmasses hstep hreached with ⟨-, -, hrun⟩ | ⟨e, hoffence, -⟩
    · exact hrun
    · rw [hallowed] at hoffence
      cases hoffence

theorem massesAreNumbers_twoSpools : MassesAreNumbers twoSpools := by
  refine massesAreNumbers_of_wide twoSpools_check fun spool hspool => ?_
  simp only [twoSpools, List.mem_cons, List.not_mem_nil, or_false] at hspool
  unfold Profile.IsWide
  rcases hspool with rfl | rfl <;> decide +kernel

theorem run_ok_iff_twoSpools : twoSpools.check = .ok () ∧ MassesAreNumbers twoSpools ∧
    ∃ result, run twoSpools = .ok result := by
  refine ⟨twoSpools_check, massesAreNumbers_twoSpools, ?_⟩
  obtain ⟨hiff, -, -⟩ := run_ok_iff twoSpools twoSpools_check massesAreNumbers_twoSpools
  rw [hiff, ← no_offence_iff]
  intro i
  rcases i with _ | _ | _ | _ | _ | i <;> rfl

end Replay
end Filament
