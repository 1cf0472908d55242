import Filament.Watch

/-!
What a recompute does to the watch.

The search for a fresh shortage finds the least tool that has one (`freshShortage?_eq_some_iff`).
What is done about it is one of four things (`respond_responds`), which touch only the shell and the
warning state, so what a recompute remembers is read off its arguments.
-/

namespace Filament

variable {α ν : Type}

namespace Snapshot

variable [Scalar α]

theorem all_getElem? (r : Registry α) (j : Job α) (tool : Nat) :
    (all r j)[tool]? =
      r.slots[tool]?.map fun spool => { spool, length := j.lengthFor tool } := by
  simp [all, List.getElem?_map, List.getElem?_zipIdx, Option.map_map, Function.comp_def]

theorem length_all (r : Registry α) (j : Job α) : (all r j).length = r.toolCount := by
  simp [all, Registry.toolCount]

end Snapshot

namespace Watch

theorem noticeClosed_notifier (w : Watch α ν) (id : Nat) :
    (w.noticeClosed id).notifier = w.notifier := by
  simp only [noticeClosed]
  split <;> rfl

theorem freshShortage?_eq_some_iff [Scalar α] {w : Watch α ν} {file : Option String}
    {snapshots : List (Snapshot α)} {tool : Nat} :
    w.freshShortage? file snapshots = some tool ↔
      (∃ s, snapshots[tool]? = some s ∧ w.isFresh file tool s = true ∧ s.isShort = true) ∧
      ∀ lower s, lower < tool → snapshots[lower]? = some s →
        ¬(w.isFresh file lower s = true ∧ s.isShort = true) := by
  simp only [freshShortage?, Option.map_eq_some_iff, List.find?_eq_some_iff_getElem]
  constructor
  · rintro ⟨⟨s, i⟩, ⟨hp, n, hn, hget, hbefore⟩, rfl⟩
    simp only [List.getElem_zipIdx, Prod.mk.injEq] at hget
    obtain ⟨hs, hi⟩ := hget
    have hni : i = n := by omega
    subst hni
    have hlen : i < snapshots.length := by simpa using hn
    refine ⟨⟨s, by rw [List.getElem?_eq_getElem hlen, hs], by simpa using hp⟩, ?_⟩
    rintro lower t hlower ht ⟨hfresh, hshort⟩
    obtain ⟨hl, hlt⟩ := List.getElem?_eq_some_iff.mp ht
    have hnot := hbefore lower hlower
    simp [hlt, hfresh, hshort] at hnot
  · rintro ⟨⟨s, hs, hfresh, hshort⟩, hbefore⟩
    obtain ⟨hlen, hget⟩ := List.getElem?_eq_some_iff.mp hs
    refine ⟨(s, tool), ⟨by simp [hfresh, hshort], tool, by simpa using hlen, by simp [hget], ?_⟩,
      rfl⟩
    intro lower hlower
    have hl : lower < snapshots.length := Nat.lt_trans hlower hlen
    have hnot := hbefore lower snapshots[lower] hlower (List.getElem?_eq_getElem hl)
    rw [← Bool.and_eq_true, Bool.not_eq_true] at hnot
    simp only [List.getElem_zipIdx, Nat.zero_add, hnot, Bool.not_false]

theorem freshShortage?_eq_none_iff [Scalar α] {w : Watch α ν} {file : Option String}
    {snapshots : List (Snapshot α)} :
    w.freshShortage? file snapshots = none ↔
      ∀ tool s, snapshots[tool]? = some s →
        ¬(w.isFresh file tool s = true ∧ s.isShort = true) := by
  simp only [freshShortage?, Option.map_eq_none_iff, List.find?_eq_none]
  constructor
  · intro h tool s hs hboth
    have hmem : (s, tool) ∈ snapshots.zipIdx := List.mk_mem_zipIdx_iff_getElem?.mpr hs
    exact h (s, tool) hmem (by rw [hboth.1, hboth.2]; rfl)
  · rintro h ⟨s, tool⟩ hmem hboth
    rw [Bool.and_eq_true] at hboth
    exact h tool s (List.mk_mem_zipIdx_iff_getElem?.mp hmem) hboth

variable [Notifier ν]

/-- All that the response to the shortages found can be: a notice shown, alone or in the place of
the open one; the open one taken down; or nothing. -/
inductive Responds (w : Watch α ν) (fresh : Option Nat) (anyShort : Bool) :
    (Option Nat × Option Nat) × Watch α ν → Prop where
  | opened (hstate : w.state = .idle) (hon : w.settings.enableWarning = true)
      (hfresh : fresh.isSome = true) :
      Responds w fresh anyShort
        ((some (Notifier.post Notice.insufficientFilament w.notifier).1, none),
          { w with
            notifier := (Notifier.post Notice.insufficientFilament w.notifier).2
            state := .warned (Notifier.post Notice.insufficientFilament w.notifier).1 })
  | replaced (old : Nat) (hstate : w.state = .warned old) (hon : w.settings.enableWarning = true)
      (hfresh : fresh.isSome = true) :
      Responds w fresh anyShort
        ((some (Notifier.post Notice.insufficientFilament
            (Notifier.retire old Notice.fadeDelay w.notifier)).1, none),
          { w with
            notifier := (Notifier.post Notice.insufficientFilament
              (Notifier.retire old Notice.fadeDelay w.notifier)).2
            state := .warned (Notifier.post Notice.insufficientFilament
              (Notifier.retire old Notice.fadeDelay w.notifier)).1 })
  | dismissed (id : Nat) (hstate : w.state = .warned id) (hon : w.settings.enableWarning = true)
      (hfresh : fresh = none) (hresolved : anyShort = false)
      (hdismiss : w.settings.dismissResolvedWarning = true) :
      Responds w fresh anyShort
        ((none, some id),
          { w with notifier := Notifier.retire id Notice.fadeDelay w.notifier, state := .idle })
  | off (hoff : w.settings.enableWarning = false) : Responds w fresh anyShort ((none, none), w)
  | kept (hfresh : fresh = none)
      (hkept : w.state = .idle ∨ anyShort = true ∨ w.settings.dismissResolvedWarning = false) :
      Responds w fresh anyShort ((none, none), w)

theorem respond_responds (w : Watch α ν) (fresh : Option Nat) (anyShort : Bool) :
    w.Responds fresh anyShort (w.respond fresh anyShort) := by
  by_cases hon : w.settings.enableWarning = true
  · simp only [respond, if_pos hon]
    cases fresh with
    | some tool =>
      cases hstate : w.state with
      | idle =>
        simp only [raise, hstate]
        exact .opened hstate hon rfl
      | warned old =>
        simp only [raise, hstate]
        exact .replaced old hstate hon rfl
    | none =>
      dsimp only
      by_cases hdismiss : (!anyShort && w.settings.dismissResolvedWarning) = true
      · rw [if_pos hdismiss]
        rw [Bool.and_eq_true, Bool.not_eq_true'] at hdismiss
        cases hstate : w.state with
        | idle =>
          simp only [dismiss, hstate]
          exact .kept rfl (Or.inl hstate)
        | warned id =>
          simp only [dismiss, hstate]
          exact .dismissed id hstate hon rfl hdismiss.1 hdismiss.2
      · rw [if_neg hdismiss]
        rw [Bool.not_eq_true, Bool.and_eq_false_iff, Bool.not_eq_false'] at hdismiss
        exact .kept rfl (Or.inr hdismiss)
  · simp only [respond, if_neg hon]
    exact .off (Bool.eq_false_iff.mpr hon)

/-- The response only uses the shell and sets the warning state. -/
theorem respond_frame (w : Watch α ν) (fresh : Option Nat) (anyShort : Bool) :
    (w.respond fresh anyShort).2 =
      { w with
        notifier := (w.respond fresh anyShort).2.notifier
        state := (w.respond fresh anyShort).2.state } := by
  have h := w.respond_responds fresh anyShort
  generalize w.respond fresh anyShort = result at h ⊢
  cases h <;> rfl

/-- A notice answers a fresh shortage, unless warnings are off. -/
theorem respond_notice (w : Watch α ν) (fresh : Option Nat) (anyShort : Bool) :
    (w.respond fresh anyShort).1.1.isSome = (w.settings.enableWarning && fresh.isSome) := by
  have h := w.respond_responds fresh anyShort
  generalize w.respond fresh anyShort = result at h ⊢
  cases h with
  | opened hstate hon hfresh => rw [hon, hfresh]; rfl
  | replaced old hstate hon hfresh => rw [hon, hfresh]; rfl
  | dismissed id hstate hon hfresh => rw [hfresh, Option.isSome_none, Bool.and_false]
  | off hoff => rw [hoff]; rfl
  | kept hfresh => rw [hfresh, Option.isSome_none, Bool.and_false]

variable [Scalar α] (w : Watch α ν) (r : Registry α) (j : Job α)

/-- What a recompute does about the shortages that it finds. -/
def response : (Option Nat × Option Nat) × Watch α ν :=
  w.respond (w.freshShortage? j.file (Snapshot.all r j)) ((Snapshot.all r j).any Snapshot.isShort)

theorem recompute_fst :
    (w.recompute r j).1 =
      { consumption := (Snapshot.all r j).zipIdx.map fun s => s.1.consumption s.2
        insufficientTool := w.freshShortage? j.file (Snapshot.all r j)
        notice := (w.response r j).1.1
        dismissed := (w.response r j).1.2 } := rfl

theorem recompute_snd :
    (w.recompute r j).2 =
      { (w.response r j).2 with
        file := j.file
        snapshots := Snapshot.all r j
        consumption := (Snapshot.all r j).zipIdx.map fun s => s.1.consumption s.2 } := rfl

theorem recompute_settings : (w.recompute r j).2.settings = w.settings := by
  show (w.respond _ _).2.settings = w.settings
  rw [respond_frame]

end Watch
end Filament
