import Filament.Proofs.Recompute
import Filament.Proofs.Run

/-!
Derived values are never stale.

The accounting keeps what the job needs of every tool and the pause thresholds beside the
selections, the job and the settings that they follow from. Both are recomputed only on some events.
That is enough: `current_after` says that after every run, with refused events and prints in it,
both are what a fresh computation gives.
-/

namespace Filament
namespace Accounting

variable {α ν : Type} [Scalar α]

/-- What the job needs of a tool with the given spool: the length reported for the tool, and the
mass of that length in the material of the spool. -/
def need (a : Accounting α ν) (tool : Nat) (spool : Option (Spool α)) : Consumption α where
  tool := tool
  length := a.job.lengthFor tool
  mass :=
    match spool with
    | some s => s.profile.mass (a.job.lengthFor tool)
    | none => Scalar.zero

/-- What the job needs of every tool, computed anew. -/
def needs (a : Accounting α ν) : List (Consumption α) :=
  (Snapshot.all a.registry a.job).zipIdx.map fun s => s.1.consumption s.2

theorem length_needs (a : Accounting α ν) : a.needs.length = a.registry.toolCount := by
  simp [needs, Snapshot.length_all]

theorem needs_getElem? (a : Accounting α ν) (tool : Nat) :
    a.needs[tool]? = a.registry.slots[tool]?.map (a.need tool) := by
  simp only [needs, List.getElem?_map, List.getElem?_zipIdx, Snapshot.all_getElem?, Option.map_map,
    Nat.zero_add]
  rfl

/-- Both derived values are what a fresh computation gives. -/
structure Current (a : Accounting α ν) : Prop where
  consumption : a.watch.consumption = a.needs
  thresholds :
    a.print.thresholds = Thresholds.compute a.registry.selections a.settings.pauseThreshold

theorem start_current (shell : ν) (settings : Settings α) : (start shell settings).Current :=
  ⟨rfl, rfl⟩

theorem noticeClosed_current {a : Accounting α ν} (ha : a.Current) (id : Nat) :
    Current { a with watch := a.watch.noticeClosed id } := by
  obtain ⟨hneeds, hthresholds⟩ := ha
  simp only [Watch.noticeClosed]
  split
  · exact ⟨hneeds, hthresholds⟩
  · exact ⟨hneeds, hthresholds⟩

theorem take_false_current {a b : Accounting α ν} {event : Event α} (ha : a.Current)
    (h : (take event).run a = (.ok false, b)) : b.Current := by
  rcases take_false h with rfl | ⟨id, -, rfl⟩ | ⟨settings, -, -, rfl⟩
  · exact ha
  · exact noticeClosed_current ha id
  · exact ⟨ha.consumption, rfl⟩

/-- Before the recompute the thresholds have followed the selections already. -/
theorem noted_thresholds {a b : Accounting α ν} {event : Event α} (ha : a.Current)
    (h : (take event).run a = (.ok true, b)) :
    (b.noted event).print.thresholds =
      Thresholds.compute (b.noted event).registry.selections
        (b.noted event).settings.pauseThreshold := by
  obtain ⟨hwatch, hprint, -, hregistry⟩ := take_true h
  cases hs : event.concernsSelections with
  | true => simp [noted, hs, tell, followSelections, Print.updateThresholds, settings]
  | false =>
    have hthresholds := ha.thresholds
    simp only [settings] at hthresholds
    simp [noted, hs, tell, settings, hwatch, hprint, hregistry hs, hthresholds]

variable [Notifier ν]

theorem recompute_current {a : Accounting α ν}
    (h : a.print.thresholds = Thresholds.compute a.registry.selections a.settings.pauseThreshold) :
    a.recompute.2.Current := by
  refine ⟨rfl, ?_⟩
  show a.print.thresholds = Thresholds.compute a.registry.selections
    (a.watch.recompute a.registry a.job).2.settings.pauseThreshold
  rw [Watch.recompute_settings]
  exact h

theorem dispatch_current {a : Accounting α ν} (ha : a.Current) (event : Event α) :
    ((dispatch event).run a).2.Current := by
  rcases dispatch_cases a event with ⟨e, -, h⟩ | ⟨b, hb, h⟩ | ⟨b, hb, h⟩
  · rw [h]
    exact ha
  · rw [h]
    obtain ⟨hneeds, hthresholds⟩ := take_false_current ha hb
    exact ⟨hneeds, hthresholds⟩
  · rw [h]
    obtain ⟨hneeds, hthresholds⟩ := recompute_current (noted_thresholds ha hb)
    exact ⟨hneeds, hthresholds⟩

theorem feedLine_thresholds (p : Print α) (line : String) :
    (p.feedLine line).2.thresholds = p.thresholds := by
  simp only [Print.feedLine]
  split
  · split <;> rfl
  · rfl

theorem finish_thresholds (p : Print α) (r : Registry α) :
    (p.finish r).2.thresholds = p.thresholds := by
  simp only [Print.finish]
  split
  · split <;> rfl
  · rfl

theorem call_current (a : Accounting α ν) (c : Call α) (ha : a.Current) : (a.call c).Current := by
  cases c with
  | subscribe l => exact ⟨ha.consumption, ha.thresholds⟩
  | dispatch event => exact dispatch_current ha event
  | startPrint => exact ⟨ha.consumption, rfl⟩
  | feedLine line =>
    exact ⟨ha.consumption, (feedLine_thresholds a.print line).trans ha.thresholds⟩
  | finishPrint =>
    exact ⟨ha.consumption, (finish_thresholds a.print a.registry).trans ha.thresholds⟩

/-- After every run there is one entry a tool, in the order of the tools, with the length that the
job reports for it and the mass of that length in the material of its spool; and the thresholds are
those of the selections and the reserve of the moment. -/
theorem derived_values_current (shell : ν) (settings : Settings α) (calls : List (Call α)) :
    let a := (start shell settings).after calls
    a.watch.consumption.length = a.registry.toolCount ∧
    (∀ tool, a.watch.consumption[tool]? = a.registry.slots[tool]?.map (a.need tool)) ∧
    a.print.thresholds = Thresholds.compute a.registry.selections a.settings.pauseThreshold := by
  intro a
  have ha : a.Current := after_induction call_current (start_current shell settings) calls
  refine ⟨?_, fun tool => ?_, ha.thresholds⟩
  · rw [ha.consumption, length_needs]
  · rw [ha.consumption, needs_getElem?]

end Accounting
end Filament
