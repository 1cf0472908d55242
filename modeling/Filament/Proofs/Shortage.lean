import Filament.Proofs.Alike
import Filament.Proofs.Recorded
import Mathlib.Order.Bounds.Defs

/-!
Which recomputes announce a shortage.

At every recompute of a run the watch still holds the file and the snapshots of the recompute before
(`recomputes_remember`), whatever came in between. So a tool is looked at again exactly if its
content differs from what the last recompute saw, and `notice_iff_fresh_shortage` says of a whole
run which recomputes show a notice. The shell is one that keeps a record, so that nothing shown is
missed.
-/

namespace Filament

variable {α ν : Type}

namespace Accounting

section

variable [Scalar α]

/-- The spool of a tool and the length that the job needs of it. -/
def snapshot? (a : Accounting α ν) (tool : Nat) : Option (Snapshot α) :=
  a.registry.slots[tool]?.map fun spool => { spool, length := a.job.lengthFor tool }

/-- The tool has a spool, which holds less than the job needs of it. -/
def Short (a : Accounting α ν) (tool : Nat) : Prop :=
  ∃ spool, a.registry.slots[tool]? = some (some spool) ∧
    Scalar.lt spool.remaining (spool.profile.mass (a.job.lengthFor tool)) = true

/-- The file is another one than it was, or the content of the tool's spool and length. -/
def Differs (a earlier : Accounting α ν) (tool : Nat) : Prop :=
  a.job.file ≠ earlier.job.file ∨ ¬(earlier.snapshot? tool == a.snapshot? tool) = true

theorem snapshot?_eq (a : Accounting α ν) (tool : Nat) :
    a.snapshot? tool = (Snapshot.all a.registry a.job)[tool]? :=
  (Snapshot.all_getElem? a.registry a.job tool).symm

theorem short_iff {a : Accounting α ν} {tool : Nat} :
    a.Short tool ↔ ∃ s, a.snapshot? tool = some s ∧ s.isShort = true := by
  constructor
  · rintro ⟨spool, hspool, hlt⟩
    exact ⟨{ spool := some spool, length := a.job.lengthFor tool },
      by simp [snapshot?, hspool], hlt⟩
  · rintro ⟨s, hs, hshort⟩
    obtain ⟨spool, hspool, rfl⟩ := Option.map_eq_some_iff.mp hs
    cases spool with
    | none => simp [Snapshot.isShort] at hshort
    | some spool => exact ⟨spool, hspool, hshort⟩

end

/-- A tool whose content did not change is as short as it was. -/
theorem short_of_not_differs {a earlier : Accounting Float ν} {tool : Nat}
    (h : ¬a.Differs earlier tool) (ha : a.Short tool) : earlier.Short tool := by
  obtain ⟨s, hs, hshort⟩ := short_iff.mp ha
  have hbeq : (earlier.snapshot? tool == a.snapshot? tool) = true := by
    simp only [Differs, not_or, Decidable.not_not] at h
    exact h.2
  rw [hs] at hbeq
  cases hold : earlier.snapshot? tool with
  | none =>
    rw [hold] at hbeq
    cases hbeq
  | some old =>
    rw [hold] at hbeq
    have hcontent : (old == s) = true := hbeq
    exact short_iff.mpr ⟨old, hold, (Snapshot.isShort_eq_of_beq hcontent).trans hshort⟩

end Accounting

/-! ## One turn -/

variable [Scalar α] [Notifier ν]

namespace Turn

/-- A call that led to a recompute did all else before it. -/
theorem after_of_outcome {t : Turn α ν} {o : Outcome α} (h : t.outcome? = some o) :
    o = (t.before.watch.recompute t.after.registry t.after.job).1 ∧
      t.after.watch = (t.before.watch.recompute t.after.registry t.after.job).2 := by
  cases t.effect with
  | closed id hcall hout hwatch =>
    rw [hout] at h
    cases h
  | quiet settings hcall hout hwatch =>
    rw [hout] at h
    cases h
  | recomputed hcall hout hwatch => exact ⟨Option.some.inj (h.symm.trans hout), hwatch⟩

/-- A call that led to no recompute leaves the memory of the watch and the shell alone. -/
theorem after_of_no_outcome {t : Turn α ν} (h : t.outcome? = none) :
    t.after.watch.file = t.before.watch.file ∧
      t.after.watch.snapshots = t.before.watch.snapshots ∧
      t.after.watch.notifier = t.before.watch.notifier := by
  cases t.effect with
  | closed id hcall hout hwatch =>
    rw [hwatch, Watch.noticeClosed]
    split <;> exact ⟨rfl, rfl, rfl⟩
  | quiet settings hcall hout hwatch =>
    rw [hwatch]
    exact ⟨rfl, rfl, rfl⟩
  | recomputed hcall hout hwatch =>
    rw [hout] at h
    cases h

end Turn

/-! ## What the watch remembers -/

/-- The watch holds what a recompute saw, or nothing if there was none. -/
def Watch.Remembers (w : Watch α ν) : Option (Turn α ν) → Prop
  | none => w.snapshots = []
  | some last =>
    w.file = last.after.job.file ∧
      w.snapshots = Snapshot.all last.after.registry last.after.job

/-- The turn before the one at an index, where `first` came before all. -/
def preceding (first : Option (Turn α ν)) (turns : List (Turn α ν)) : Nat → Option (Turn α ν)
  | 0 => first
  | k + 1 => turns[k]?

theorem Watch.Remembers.isFresh_iff {w : Watch α ν} {last : Option (Turn α ν)}
    (h : w.Remembers last) (a : Accounting α ν) {tool : Nat} {s : Snapshot α}
    (hs : a.snapshot? tool = some s) :
    w.isFresh a.job.file tool s = true ↔ ∀ p ∈ last, a.Differs p.after tool := by
  cases last with
  | none =>
    have hnone : w.snapshots = [] := h
    simp [isFresh, hnone]
  | some p =>
    obtain ⟨hfile, hsnapshots⟩ := h
    simp [isFresh, Accounting.Differs, hfile, hsnapshots, ← Accounting.snapshot?_eq, hs]

theorem Turn.remembers_after (t : Turn α ν) {last : Option (Turn α ν)}
    (h : t.before.watch.Remembers last) :
    t.after.watch.Remembers (if t.outcome?.isSome then some t else last) := by
  cases ho : t.outcome? with
  | none =>
    obtain ⟨hfile, hsnapshots, -⟩ := t.after_of_no_outcome ho
    cases last with
    | none => exact hsnapshots.trans h
    | some p => exact ⟨hfile.trans h.1, hsnapshots.trans h.2⟩
  | some o =>
    rw [Option.isSome_some, if_pos rfl, (t.after_of_outcome ho).2]
    exact ⟨rfl, rfl⟩

theorem Accounting.recomputes_cons (a : Accounting α ν) (c : Call α) (calls : List (Call α)) :
    a.recomputes (c :: calls) =
      if (Turn.mk a c).outcome?.isSome then ⟨a, c⟩ :: (a.call c).recomputes calls
      else (a.call c).recomputes calls :=
  List.filter_cons

theorem Accounting.outcome_of_mem_recomputes {a : Accounting α ν} {calls : List (Call α)}
    {t : Turn α ν} (h : t ∈ a.recomputes calls) : t.outcome?.isSome = true :=
  (List.mem_filter.mp h).2

/-- At every recompute the watch still holds what the recompute before it saw. -/
theorem Accounting.recomputes_remember {a : Accounting α ν} {first : Option (Turn α ν)}
    (h : a.watch.Remembers first) (calls : List (Call α)) {k : Nat} {t : Turn α ν}
    (ht : (a.recomputes calls)[k]? = some t) :
    t.before.watch.Remembers (preceding first (a.recomputes calls) k) := by
  -- `first` is the last recompute before these calls, so it changes along with the state.
  induction calls generalizing a first k with
  | nil => cases ht
  | cons c rest ih =>
    have hafter := (Turn.mk a c).remembers_after h
    rw [recomputes_cons] at ht ⊢
    cases ho : (Turn.mk a c).outcome?.isSome with
    | false =>
      rw [ho] at ht hafter
      exact ih hafter ht
    | true =>
      rw [ho] at ht hafter
      cases k with
      | zero =>
        obtain rfl : Turn.mk a c = t := Option.some.inj ht
        exact h
      | succ k =>
        have hrest := ih hafter ht
        -- The turn of `c` itself stands before the first of the rest.
        cases k with
        | zero => exact hrest
        | succ k => exact hrest

/-! ## Notices shown -/

/-- The notices shown in a turn. -/
def Turn.shown (t : Turn α (Recorded ν)) : List Nat :=
  shownIds (t.after.watch.notifier.since t.before.watch.notifier)

namespace Turn

theorem shown_of_outcome {t : Turn α (Recorded ν)} {o : Outcome α} (h : t.outcome? = some o) :
    t.shown = o.notice.toList ∧
      o.notice.isSome = (t.after.settings.enableWarning && o.insufficientTool.isSome) := by
  obtain ⟨ho, hwatch⟩ := after_of_outcome h
  have hsettings : t.after.settings = t.before.watch.settings := by
    rw [Accounting.settings, hwatch, Watch.recompute_settings]
  rw [shown, hwatch, hsettings, ho]
  exact ⟨Watch.respond_shown _ _ _, Watch.respond_notice _ _ _⟩

theorem shown_of_no_outcome {t : Turn α (Recorded ν)} (h : t.outcome? = none) : t.shown = [] := by
  obtain ⟨-, -, hnotifier⟩ := after_of_no_outcome h
  rw [shown, hnotifier, Recorded.since_self]
  rfl

end Turn

/-! ## Runs -/

/-- At recompute `k` the tool was short. -/
def ShortAt (recomputes : List (Turn α ν)) (k tool : Nat) : Prop :=
  ∃ t, recomputes[k]? = some t ∧ t.after.Short tool

/-- At recompute `k` the tool was another one than at the recompute before, if there was one. -/
def FreshAt (recomputes : List (Turn α ν)) (k tool : Nat) : Prop :=
  ∃ t, recomputes[k]? = some t ∧
    ∀ p ∈ preceding none recomputes k, t.after.Differs p.after tool

namespace Accounting

theorem fresh_and_short_iff {a : Accounting α ν} (ha : a.watch.snapshots = [])
    {calls : List (Call α)} {k : Nat} {t : Turn α ν} (ht : (a.recomputes calls)[k]? = some t)
    (tool : Nat) :
    (∃ s, (Snapshot.all t.after.registry t.after.job)[tool]? = some s ∧
        t.before.watch.isFresh t.after.job.file tool s = true ∧ s.isShort = true) ↔
      FreshAt (a.recomputes calls) k tool ∧ ShortAt (a.recomputes calls) k tool := by
  have hstart : a.watch.Remembers none := ha
  have hremember := recomputes_remember hstart calls ht
  rw [← snapshot?_eq]
  constructor
  · rintro ⟨s, hs, hfresh, hshort⟩
    rw [hremember.isFresh_iff t.after hs] at hfresh
    exact ⟨⟨t, ht, hfresh⟩, t, ht, short_iff.mpr ⟨s, hs, hshort⟩⟩
  · rintro ⟨⟨u, hu, hfresh⟩, u', hu', hshort⟩
    obtain rfl : t = u := Option.some.inj (ht.symm.trans hu)
    obtain rfl : t = u' := Option.some.inj (ht.symm.trans hu')
    obtain ⟨s, hs, hshort⟩ := short_iff.mp hshort
    exact ⟨s, hs, (hremember.isFresh_iff t.after hs).mpr hfresh, hshort⟩

/-- The insufficient tool of a recompute is the first one that is short and fresh. -/
theorem insufficientTool_iff {a : Accounting α ν} (ha : a.watch.snapshots = [])
    {calls : List (Call α)} {k : Nat} {t : Turn α ν} {o : Outcome α}
    (ht : (a.recomputes calls)[k]? = some t) (ho : t.outcome? = some o) (tool : Nat) :
    o.insufficientTool = some tool ↔
      IsLeast {x | FreshAt (a.recomputes calls) k x ∧ ShortAt (a.recomputes calls) k x} tool := by
  obtain ⟨hout, -⟩ := Turn.after_of_outcome ho
  rw [hout, Watch.recompute_fst, Watch.freshShortage?_eq_some_iff, fresh_and_short_iff ha ht]
  refine and_congr_right fun _ => ⟨fun h x hx => ?_, fun h lower s hlower hs hboth => ?_⟩
  · obtain ⟨s, hs, hboth⟩ := (fresh_and_short_iff ha ht x).mpr hx
    exact Nat.le_of_not_lt fun hlower => h x s hlower hs hboth
  · have hle := h ((fresh_and_short_iff ha ht lower).mp ⟨s, hs, hboth⟩)
    exact Nat.not_le_of_lt hlower hle

theorem insufficientTool_eq_none_iff {a : Accounting α ν} (ha : a.watch.snapshots = [])
    {calls : List (Call α)} {k : Nat} {t : Turn α ν} {o : Outcome α}
    (ht : (a.recomputes calls)[k]? = some t) (ho : t.outcome? = some o) :
    o.insufficientTool = none ↔
      ∀ tool, ¬(FreshAt (a.recomputes calls) k tool ∧ ShortAt (a.recomputes calls) k tool) := by
  obtain ⟨hout, -⟩ := Turn.after_of_outcome ho
  rw [hout, Watch.recompute_fst, Watch.freshShortage?_eq_none_iff]
  refine forall_congr' fun tool => ?_
  rw [← fresh_and_short_iff ha ht tool]
  exact ⟨fun h ⟨s, hs, hboth⟩ => h s hs hboth, fun h s hs hboth => h ⟨s, hs, hboth⟩⟩

/-- A tool that is short was short already when its content was last another one. -/
theorem short_since_last_fresh {rs : List (Turn Float ν)} {k tool : Nat} (h : ShortAt rs k tool) :
    ∃ j ≤ k, FreshAt rs j tool ∧ ShortAt rs j tool ∧ ∀ i, j < i → i ≤ k → ¬FreshAt rs i tool := by
  induction k with
  | zero =>
    obtain ⟨t, ht, hshort⟩ := h
    exact ⟨0, Nat.le_refl 0, ⟨t, ht, by simp [preceding]⟩, ⟨t, ht, hshort⟩, by omega⟩
  | succ k ih =>
    by_cases hfresh : FreshAt rs (k + 1) tool
    · exact ⟨k + 1, Nat.le_refl _, hfresh, h, by omega⟩
    · -- Its content is that of the recompute before, where it was therefore short as well.
      have hbefore : ShortAt rs k tool := by
        obtain ⟨t, ht, hshort⟩ := h
        cases hp : rs[k]? with
        | none =>
          have hend : rs.length ≤ k := List.getElem?_eq_none_iff.mp hp
          rw [List.getElem?_eq_none (by omega)] at ht
          cases ht
        | some p =>
          refine ⟨p, hp, short_of_not_differs (fun hdiffers => hfresh ⟨t, ht, ?_⟩) hshort⟩
          intro p' hp'
          obtain rfl : p = p' := Option.some.inj (hp.symm.trans hp')
          exact hdiffers
      obtain ⟨j, hj, hfreshj, hshortj, hlater⟩ := ih hbefore
      refine ⟨j, by omega, hfreshj, hshortj, fun i hi hik => ?_⟩
      by_cases hlast : i = k + 1
      · rw [hlast]
        exact hfresh
      · exact hlater i hi (by omega)

/-- In every run, a recompute shows a notice if warnings are on and some tool is fresh and short,
and then it shows one. It finds the first such tool insufficient, whether or not warnings are on.
Nothing else shows a notice; so while the content of no tool changes, none is shown. A tool that is
short was announced when its content last changed, unless warnings were off. -/
theorem notice_iff_fresh_shortage (shell : ν) (settings : Settings Float)
    (calls : List (Call Float)) :
    let run := start (Recorded.start shell) settings
    let rs := run.recomputes calls
    (∀ k t, rs[k]? = some t →
      (t.shown ≠ [] ↔
        t.after.settings.enableWarning = true ∧ ∃ tool, FreshAt rs k tool ∧ ShortAt rs k tool) ∧
      t.shown.length ≤ 1 ∧
      ∃ o, t.outcome? = some o ∧
        (∀ tool, o.insufficientTool = some tool ↔
          IsLeast {x | FreshAt rs k x ∧ ShortAt rs k x} tool) ∧
        (o.insufficientTool = none ↔ ∀ tool, ¬(FreshAt rs k tool ∧ ShortAt rs k tool))) ∧
    (∀ t ∈ run.turns calls, t.outcome? = none → t.shown = []) ∧
    (∀ k t, rs[k]? = some t → (∀ tool, ¬FreshAt rs k tool) → t.shown = []) ∧
    (∀ k tool, ShortAt rs k tool →
      ∃ j ≤ k, FreshAt rs j tool ∧ (∀ i, j < i → i ≤ k → ¬FreshAt rs i tool) ∧
        ∃ t, rs[j]? = some t ∧ (t.after.settings.enableWarning = true → t.shown ≠ [])) := by
  intro run rs
  have hstart : run.watch.snapshots = [] := rfl
  have hout : ∀ k t, rs[k]? = some t → ∃ o, t.outcome? = some o ∧ (∀ tool,
      o.insufficientTool = some tool ↔ IsLeast {x | FreshAt rs k x ∧ ShortAt rs k x} tool) ∧
      (o.insufficientTool = none ↔ ∀ tool, ¬(FreshAt rs k tool ∧ ShortAt rs k tool)) := by
    intro k t ht
    obtain ⟨o, ho⟩ :=
      Option.isSome_iff_exists.mp (outcome_of_mem_recomputes (List.mem_of_getElem? ht))
    exact ⟨o, ho, insufficientTool_iff hstart ht ho, insufficientTool_eq_none_iff hstart ht ho⟩
  have hshown : ∀ k t, rs[k]? = some t →
      (t.shown ≠ [] ↔
        t.after.settings.enableWarning = true ∧ ∃ tool, FreshAt rs k tool ∧ ShortAt rs k tool) := by
    intro k t ht
    obtain ⟨o, ho, -, hnone⟩ := hout k t ht
    obtain ⟨hlist, hnotice⟩ := Turn.shown_of_outcome ho
    have hsome : o.insufficientTool.isSome = true ↔
        ∃ tool, FreshAt rs k tool ∧ ShortAt rs k tool := by
      rw [← Option.ne_none_iff_isSome, ne_eq, hnone, Classical.not_forall_not]
    rw [← hsome, ← Bool.and_eq_true, ← hnotice, hlist, ne_eq, Option.toList_eq_nil_iff,
      ← ne_eq, Option.ne_none_iff_isSome]
  refine ⟨fun k t ht => ⟨hshown k t ht, ?_, hout k t ht⟩, ?_, ?_, ?_⟩
  · obtain ⟨o, ho, -, -⟩ := hout k t ht
    rw [(Turn.shown_of_outcome ho).1]
    cases o.notice <;> simp
  · intro t _ ho
    exact Turn.shown_of_no_outcome ho
  · intro k t ht hfresh
    by_cases hnil : t.shown = []
    · exact hnil
    · obtain ⟨-, tool, hfreshTool, -⟩ := (hshown k t ht).mp hnil
      exact absurd hfreshTool (hfresh tool)
  · intro k tool hshort
    obtain ⟨j, hj, hfresh, hshort, hlater⟩ := short_since_last_fresh hshort
    obtain ⟨t, ht, -⟩ := id hfresh
    exact ⟨j, hj, hfresh, hlater, t, ht, fun hon => (hshown j t ht).mpr ⟨hon, tool, hfresh, hshort⟩⟩

end Accounting
end Filament
