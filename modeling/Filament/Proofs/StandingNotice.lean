import Mathlib.Data.List.Induction
import Mathlib.Data.List.Infix
import Filament.Proofs.Shortage

/-!
How long a notice stands.

With warnings on, and with resolved ones taken down, a notice stands for a shortage: while it is
open some tool is short (`short_of_warned`), and while a tool is short it is open, unless the user
closed it after the content of that tool last changed (`upheld_after`). A tool that was announced
and did not change since is passed over by later recomputes, but it still counts against taking the
notice down.
-/

namespace Filament

variable {α ν : Type}

theorem preceding_append {rs more : List (Turn α ν)} {k : Nat} (h : k ≤ rs.length) :
    preceding none (rs ++ more) k = preceding none rs k := by
  cases k with
  | zero => rfl
  | succ k => exact List.getElem?_append_left h

theorem preceding_length (rs : List (Turn α ν)) : preceding none rs rs.length = rs.getLast? := by
  cases rs with
  | nil => rfl
  | cons t rest =>
    rw [List.getLast?_eq_getElem?]
    rfl

variable [Scalar α]

/-- The recompute finds a shortage, fresh or not, exactly if some tool is short. -/
theorem Accounting.any_isShort_iff {a : Accounting α ν} :
    (Snapshot.all a.registry a.job).any Snapshot.isShort = true ↔ ∃ tool, a.Short tool := by
  simp only [short_iff, snapshot?_eq, List.any_eq_true, List.mem_iff_getElem?]
  constructor
  · rintro ⟨s, ⟨tool, hs⟩, hshort⟩
    exact ⟨tool, s, hs, hshort⟩
  · rintro ⟨tool, s, hs, hshort⟩
    exact ⟨s, ⟨tool, hs⟩, hshort⟩

variable [Notifier ν]

/-! ## One turn -/

namespace Turn

variable {t : Turn α ν} {o : Outcome α}

/-- A call that led to no recompute leaves the selections and the job alone. -/
theorem frame_of_no_outcome (h : t.outcome? = none) :
    t.after.registry = t.before.registry ∧ t.after.job = t.before.job := by
  obtain ⟨a, c⟩ := t
  cases c with
  | subscribe l => exact ⟨rfl, rfl⟩
  | dispatch event =>
    show ((Accounting.dispatch event).run a).2.registry = a.registry ∧
      ((Accounting.dispatch event).run a).2.job = a.job
    rcases Accounting.dispatch_cases a event with ⟨e, -, hd⟩ | ⟨b, hb, hd⟩ | ⟨b, hb, hd⟩
    · rw [hd]
      exact ⟨rfl, rfl⟩
    · rw [hd]
      rcases Accounting.take_false hb with rfl | ⟨id, -, rfl⟩ | ⟨settings, -, -, rfl⟩
      · exact ⟨rfl, rfl⟩
      · exact ⟨rfl, rfl⟩
      · exact ⟨rfl, rfl⟩
    · simp [outcome?, hd] at h
  | startPrint => exact ⟨rfl, rfl⟩
  | feedLine line => exact ⟨rfl, rfl⟩
  | finishPrint => exact ⟨rfl, rfl⟩

theorem short_of_no_outcome (h : t.outcome? = none) (tool : Nat) :
    t.after.Short tool ↔ t.before.Short tool := by
  obtain ⟨hregistry, hjob⟩ := frame_of_no_outcome h
  unfold Accounting.Short
  rw [hregistry, hjob]

/-- Without a recompute the state changes only when the user closes the open notice. -/
theorem state_of_no_outcome (h : t.outcome? = none) :
    t.after.watch.state = t.before.watch.state ∨
    ∃ id, t.call = .dispatch (.noticeClosed id) ∧ t.before.watch.state = .warned id ∧
      t.after.watch.state = .idle := by
  cases t.effect with
  | closed id hcall hout hwatch =>
    rw [hwatch, Watch.noticeClosed]
    by_cases hopen : t.before.watch.state = .warned id
    · rw [if_pos hopen]
      exact Or.inr ⟨id, hcall, hopen, rfl⟩
    · rw [if_neg hopen]
      exact Or.inl rfl
  | quiet settings hcall hout hwatch =>
    rw [hwatch]
    exact Or.inl rfl
  | recomputed hcall hout hwatch =>
    rw [hout] at h
    cases h

theorem responds_of_outcome (h : t.outcome? = some o) :
    ∃ w, t.before.watch.Responds o.insufficientTool
        ((Snapshot.all t.after.registry t.after.job).any Snapshot.isShort)
        ((o.notice, o.dismissed), w) ∧
      t.after.watch.state = w.state := by
  obtain ⟨ho, hwatch⟩ := after_of_outcome h
  refine ⟨(t.before.watch.response t.after.registry t.after.job).2, ?_, ?_⟩
  · rw [ho]
    exact t.before.watch.respond_responds _ _
  · rw [hwatch]
    rfl

theorem short_of_insufficientTool (h : t.outcome? = some o) {tool : Nat}
    (htool : o.insufficientTool = some tool) : t.after.Short tool := by
  rw [(after_of_outcome h).1, Watch.recompute_fst] at htool
  obtain ⟨⟨s, hs, -, hshort⟩, -⟩ := Watch.freshShortage?_eq_some_iff.mp htool
  rw [← Accounting.snapshot?_eq] at hs
  exact Accounting.short_iff.mpr ⟨s, hs, hshort⟩

/-- A notice is taken down only if no tool is short, looked at again or not. -/
theorem not_short_of_dismissed (h : t.outcome? = some o) (hdismissed : o.dismissed.isSome = true)
    (tool : Nat) : ¬t.after.Short tool := by
  obtain ⟨w, hresponds, -⟩ := responds_of_outcome h
  intro hshort
  have hany := Accounting.any_isShort_iff.mpr ⟨tool, hshort⟩
  obtain ⟨consumption, insufficient, notice, dismissed⟩ := o
  cases hresponds with
  | dismissed id hstate hon hfresh hresolved hdismiss =>
    rw [hany] at hresolved
    cases hresolved
  | _ => cases hdismissed

/-- With both settings on, a recompute opens a notice if there is a fresh shortage, has none open if
there is no shortage, and leaves the state as it is if there are only known shortages. -/
theorem state_of_outcome (h : t.outcome? = some o)
    (hon : t.before.watch.settings.enableWarning = true)
    (hdismiss : t.before.watch.settings.dismissResolvedWarning = true) :
    (o.insufficientTool ≠ none ∧ ∃ id, t.after.watch.state = .warned id) ∨
    (o.insufficientTool = none ∧ (∀ tool, ¬t.after.Short tool) ∧ t.after.watch.state = .idle) ∨
    (o.insufficientTool = none ∧ (∃ tool, t.after.Short tool) ∧
      t.after.watch.state = t.before.watch.state) := by
  obtain ⟨w, hresponds, hstate⟩ := responds_of_outcome h
  have hany := Accounting.any_isShort_iff (a := t.after)
  rw [hstate]
  obtain ⟨consumption, insufficient, notice, dismissed⟩ := o
  cases hresponds with
  | opened hidle _ hfresh => exact Or.inl ⟨Option.isSome_iff_ne_none.mp hfresh, _, rfl⟩
  | replaced old hwarned _ hfresh => exact Or.inl ⟨Option.isSome_iff_ne_none.mp hfresh, _, rfl⟩
  | dismissed id hwarned _ hfresh hresolved _ =>
    have hnone : ∀ tool, ¬t.after.Short tool := by
      intro tool hshort
      rw [hany.mpr ⟨tool, hshort⟩] at hresolved
      cases hresolved
    exact Or.inr (Or.inl ⟨hfresh, hnone, rfl⟩)
  | off hoff =>
    rw [hoff] at hon
    cases hon
  | kept hfresh hkept =>
    by_cases hshort : ∃ tool, t.after.Short tool
    · exact Or.inr (Or.inr ⟨hfresh, hshort, rfl⟩)
    · have hidle : t.before.watch.state = .idle := by
        rcases hkept with hidle | hresolved | hoff
        · exact hidle
        · exact absurd (hany.mp hresolved) hshort
        · rw [hoff] at hdismiss
          cases hdismiss
      exact Or.inr (Or.inl ⟨hfresh, not_exists.mp hshort, hidle⟩)

end Turn

/-! ## The latest change of a tool -/

theorem freshAt_append {rs more : List (Turn α ν)} {k : Nat} (h : k < rs.length) (tool : Nat) :
    FreshAt (rs ++ more) k tool ↔ FreshAt rs k tool := by
  unfold FreshAt
  rw [preceding_append (Nat.le_of_lt h), List.getElem?_append_left h]

theorem FreshAt.lt_length {rs : List (Turn α ν)} {k tool : Nat} (h : FreshAt rs k tool) :
    k < rs.length := by
  obtain ⟨t, ht, -⟩ := h
  exact (List.getElem?_eq_some_iff.mp ht).1

namespace Accounting

/-- The selections and the job are those that the last recompute saw; without one there is no
tool. -/
def Settled (a : Accounting α ν) : Option (Turn α ν) → Prop
  | none => a.registry.slots = []
  | some last => a.registry = last.after.registry ∧ a.job = last.after.job

theorem settled_after {a : Accounting α ν} (ha : a.registry.slots = []) (calls : List (Call α)) :
    (a.after calls).Settled (a.recomputes calls).getLast? := by
  induction calls using List.reverseRecOn with
  | nil => exact ha
  | append_singleton calls c ih =>
    rw [after_snoc]
    cases ho : (Turn.mk (a.after calls) c).outcome? with
    | none =>
      obtain ⟨hregistry, hjob⟩ := Turn.frame_of_no_outcome ho
      rw [recomputes_snoc_of_no_outcome ho]
      cases hlast : (a.recomputes calls).getLast? with
      | none =>
        rw [hlast] at ih
        exact (congrArg Registry.slots hregistry).trans ih
      | some last =>
        rw [hlast] at ih
        exact ⟨hregistry.trans ih.1, hjob.trans ih.2⟩
    | some o =>
      rw [recomputes_snoc_of_outcome ho, List.getLast?_concat]
      exact ⟨rfl, rfl⟩

theorem Settled.short_iff {a : Accounting α ν} {last : Turn α ν} (h : a.Settled (some last))
    (tool : Nat) : a.Short tool ↔ last.after.Short tool := by
  obtain ⟨hregistry, hjob⟩ := h
  unfold Short
  rw [hregistry, hjob]

theorem exists_last_fresh {a : Accounting Float ν} {rs : List (Turn Float ν)}
    (ha : a.Settled rs.getLast?) {tool : Nat} (h : a.Short tool) :
    ∃ k, FreshAt rs k tool ∧ ∀ i, k < i → ¬FreshAt rs i tool := by
  have hlast : ShortAt rs (rs.length - 1) tool := by
    cases hp : rs.getLast? with
    | none =>
      rw [hp] at ha
      obtain ⟨spool, hspool, -⟩ := h
      have hnil : a.registry.slots = [] := ha
      rw [hnil] at hspool
      cases hspool
    | some p =>
      rw [hp] at ha
      exact ⟨p, List.getLast?_eq_getElem?.symm.trans hp, (ha.short_iff tool).mp h⟩
  obtain ⟨k, -, hfresh, -, hlater⟩ := short_since_last_fresh hlast
  refine ⟨k, hfresh, fun i hi hfreshi => ?_⟩
  have hlt := hfreshi.lt_length
  exact hlater i hi (by omega) hfreshi

/-! ## Runs -/

/-- At every moment of a run warnings are on, and resolved ones are taken down. -/
def Vigilant (a : Accounting α ν) (calls : List (Call α)) : Prop :=
  ∀ earlier, earlier <+: calls →
    (a.after earlier).settings.enableWarning = true ∧
      (a.after earlier).settings.dismissResolvedWarning = true

/-- The user closed the open notice after the tool was last another one than at the recompute
before. -/
def ClosedSince (a : Accounting α ν) (calls : List (Call α)) (tool : Nat) : Prop :=
  ∃ k, FreshAt (a.recomputes calls) k tool ∧
    (∀ i, k < i → ¬FreshAt (a.recomputes calls) i tool) ∧
    ∃ earlier id later, calls = earlier ++ .dispatch (.noticeClosed id) :: later ∧
      (a.after earlier).watch.state = .warned id ∧ k < (a.recomputes earlier).length

theorem Vigilant.of_snoc {a : Accounting α ν} {calls : List (Call α)} {c : Call α}
    (h : a.Vigilant (calls ++ [c])) : a.Vigilant calls :=
  fun earlier hearlier => h earlier (hearlier.trans (List.prefix_append calls [c]))

/-- It stays so as long as the tool does not change. -/
theorem closedSince_snoc {a : Accounting α ν} {calls : List (Call α)} {c : Call α} {tool : Nat}
    (h : a.ClosedSince calls tool)
    (hsame : ¬FreshAt (a.recomputes (calls ++ [c])) (a.recomputes calls).length tool) :
    a.ClosedSince (calls ++ [c]) tool := by
  obtain ⟨k, hfresh, hlater, earlier, id, later, hcalls, hopen, hk⟩ := h
  refine ⟨k, ?_, ?_, earlier, id, later ++ [c], ?_, hopen, hk⟩
  · rw [recomputes_snoc, freshAt_append hfresh.lt_length]
    exact hfresh
  · intro i hi hfreshi
    have hlt := hfreshi.lt_length
    rcases Nat.lt_trichotomy i (a.recomputes calls).length with hbefore | hat | hbeyond
    · rw [recomputes_snoc, freshAt_append hbefore] at hfreshi
      exact hlater i hi hfreshi
    · rw [hat] at hfreshi
      exact hsame hfreshi
    · have hone := List.length_filter_le (fun t : Turn α ν => t.outcome?.isSome)
        [Turn.mk (a.after calls) c]
      rw [recomputes_snoc, List.length_append] at hlt
      rw [List.length_singleton] at hone
      omega
  · rw [hcalls, List.append_assoc, List.cons_append]

theorem short_of_warned {a : Accounting α ν} (ha : a.watch.state = .idle) {calls : List (Call α)}
    (hon : a.Vigilant calls) {id : Nat} (h : (a.after calls).watch.state = .warned id) :
    ∃ tool, (a.after calls).Short tool := by
  induction calls using List.reverseRecOn generalizing id with
  | nil =>
    have hstart : a.watch.state = .warned id := h
    rw [ha] at hstart
    cases hstart
  | append_singleton calls c ih =>
    obtain ⟨hwarn, hdismiss⟩ := hon calls (List.prefix_append calls [c])
    rw [after_snoc] at h ⊢
    cases ho : (Turn.mk (a.after calls) c).outcome? with
    | none =>
      rcases Turn.state_of_no_outcome ho with hsame | ⟨_, -, -, hidle⟩
      · obtain ⟨tool, hshort⟩ := ih hon.of_snoc (hsame.symm.trans h)
        exact ⟨tool, (Turn.short_of_no_outcome ho tool).mpr hshort⟩
      · cases hidle.symm.trans h
    | some o =>
      rcases Turn.state_of_outcome ho hwarn hdismiss with ⟨hfresh, -⟩ | ⟨-, -, hidle⟩
        | ⟨-, hshort, -⟩
      · obtain ⟨tool, htool⟩ := Option.ne_none_iff_exists'.mp hfresh
        exact ⟨tool, Turn.short_of_insufficientTool ho htool⟩
      · cases hidle.symm.trans h
      · exact hshort

/-- A tool that is short at a recompute and not fresh was short right before it. -/
theorem short_before_of_not_fresh {a : Accounting Float ν} {rs : List (Turn Float ν)}
    (ha : a.Settled rs.getLast?) {t : Turn Float ν} {tool : Nat} (hshort : t.after.Short tool)
    (hsame : ¬FreshAt (rs ++ [t]) rs.length tool) : a.Short tool := by
  have hlast : (rs ++ [t])[rs.length]? = some t := List.getElem?_concat_length
  obtain ⟨p, hp, hdiffers⟩ : ∃ p, rs.getLast? = some p ∧ ¬t.after.Differs p.after tool := by
    by_contra hall
    refine hsame ⟨t, hlast, fun p hp => ?_⟩
    rw [preceding_append (Nat.le_refl _), preceding_length] at hp
    by_contra hdiffers
    exact hall ⟨p, hp, hdiffers⟩
  rw [hp] at ha
  exact (ha.short_iff tool).mpr (short_of_not_differs hdiffers hshort)

/-- While a tool is short, no notice is open only if the user closed it. -/
def Upheld (a : Accounting α ν) (calls : List (Call α)) : Prop :=
  ∀ tool, (a.after calls).Short tool → (a.after calls).watch.state = .idle →
    a.ClosedSince calls tool

section

variable {a : Accounting Float ν} {calls : List (Call Float)} {c : Call Float}

theorem upheld_snoc_of_no_outcome (hsettled : (a.after calls).Settled (a.recomputes calls).getLast?)
    (h : a.Upheld calls) (ho : (Turn.mk (a.after calls) c).outcome? = none) :
    a.Upheld (calls ++ [c]) := by
  intro tool hshort hidle
  rw [after_snoc] at hshort hidle
  have hrs := recomputes_snoc_of_no_outcome ho
  have hbefore : (a.after calls).Short tool := (Turn.short_of_no_outcome ho tool).mp hshort
  rcases Turn.state_of_no_outcome ho with hstate | ⟨id, hcall, hopen, -⟩
  · have hsame : ¬FreshAt (a.recomputes (calls ++ [c])) (a.recomputes calls).length tool := by
      intro hfresh
      have hlt := hfresh.lt_length
      rw [hrs] at hlt
      exact Nat.lt_irrefl _ hlt
    exact closedSince_snoc (h tool hbefore (hstate.symm.trans hidle)) hsame
  · obtain ⟨k, hfresh, hlater⟩ := exists_last_fresh hsettled hbefore
    have hc : c = .dispatch (.noticeClosed id) := hcall
    rw [ClosedSince, hrs, hc]
    exact ⟨k, hfresh, hlater, calls, id, [], rfl, hopen, hfresh.lt_length⟩

theorem upheld_snoc_of_outcome (ha : a.watch.snapshots = [])
    (hsettled : (a.after calls).Settled (a.recomputes calls).getLast?)
    (hwarn : (a.after calls).settings.enableWarning = true)
    (hdismiss : (a.after calls).settings.dismissResolvedWarning = true) (h : a.Upheld calls)
    {o : Outcome Float} (ho : (Turn.mk (a.after calls) c).outcome? = some o) :
    a.Upheld (calls ++ [c]) := by
  intro tool hshort hidle
  rw [after_snoc] at hshort hidle
  have hrs := recomputes_snoc_of_outcome ho
  rcases Turn.state_of_outcome ho hwarn hdismiss with ⟨-, id, hopen⟩ | ⟨-, hnone, -⟩ |
    ⟨hnone, -, hstate⟩
  · cases hidle.symm.trans hopen
  · exact absurd hshort (hnone tool)
  · -- If the tool had changed, its shortage would be fresh and a notice open.
    have hsame : ¬FreshAt (a.recomputes (calls ++ [c])) (a.recomputes calls).length tool := by
      have hlast : (a.recomputes (calls ++ [c]))[(a.recomputes calls).length]? =
          some (Turn.mk (a.after calls) c) := by
        rw [hrs]
        exact List.getElem?_concat_length
      intro hfresh
      exact (insufficientTool_eq_none_iff ha hlast ho).mp hnone tool ⟨hfresh, _, hlast, hshort⟩
    have hbefore : (a.after calls).Short tool := by
      rw [hrs] at hsame
      exact short_before_of_not_fresh (t := Turn.mk (a.after calls) c) hsettled hshort hsame
    exact closedSince_snoc (h tool hbefore (hstate.symm.trans hidle)) hsame

theorem upheld_after (hslots : a.registry.slots = []) (ha : a.watch.snapshots = [])
    (hon : a.Vigilant calls) : a.Upheld calls := by
  induction calls using List.reverseRecOn with
  | nil =>
    rintro tool ⟨spool, hspool, -⟩
    have hnil : a.registry.slots[tool]? = some (some spool) := hspool
    rw [hslots] at hnil
    cases hnil
  | append_singleton calls c ih =>
    have hsettled := settled_after hslots calls
    obtain ⟨hwarn, hdismiss⟩ := hon calls (List.prefix_append calls [c])
    cases ho : (Turn.mk (a.after calls) c).outcome? with
    | none => exact upheld_snoc_of_no_outcome hsettled (ih hon.of_snoc) ho
    | some o => exact upheld_snoc_of_outcome ha hsettled hwarn hdismiss (ih hon.of_snoc) ho

end

/-- In a run with warnings on and resolved ones taken down throughout: while a notice is open some
tool is short. While a tool is short and no notice is open, the user closed the one that was open
after the recompute at which the tool last changed. And no recompute takes a notice down while any
tool is short. -/
theorem notice_stands_while_short (shell : ν) (settings : Settings Float)
    (calls : List (Call Float)) (hon : (start shell settings).Vigilant calls) :
    let run := start shell settings
    let a := run.after calls
    (∀ id, a.watch.state = .warned id → ∃ tool, a.Short tool) ∧
    (∀ tool, a.Short tool → a.watch.state = .idle → run.ClosedSince calls tool) ∧
    ∀ t ∈ run.recomputes calls, ∀ o, t.outcome? = some o → o.dismissed.isSome = true →
      ∀ tool, ¬t.after.Short tool := by
  intro run a
  refine ⟨?_, ?_, ?_⟩
  · intro id hopen
    exact short_of_warned rfl hon hopen
  · intro tool hshort hidle
    exact upheld_after rfl rfl hon tool hshort hidle
  · intro t _ o ho hdismissed tool
    exact Turn.not_short_of_dismissed ho hdismissed tool

/-- An overdrawn spool whose notice was closed. -/
theorem notice_stands_while_short_closed :
    let settings : Settings Float := { Settings.standard with dismissResolvedWarning := true }
    let run := start NoticeLog.empty settings
    let calls : List (Call Float) :=
      [.dispatch (.toolCountChanged 1),
        .dispatch (.selectionChanged 0 (some { Spool.standard with used := 2000 })),
        .dispatch (.noticeClosed 1)]
    run.Vigilant calls ∧ (run.after calls).Short 0 ∧ run.ClosedSince calls 0 := by
  intro settings run calls
  have hon : run.Vigilant calls := by
    intro earlier hearlier
    have hall : ∀ earlier ∈ calls.inits, (run.after earlier).settings.enableWarning = true ∧
        (run.after earlier).settings.dismissResolvedWarning = true := by
      decide +kernel
    exact hall earlier ((List.mem_inits earlier calls).mpr hearlier)
  have hidle : (run.after calls).watch.state = .idle := by decide +kernel
  have hshort : (run.after calls).Short 0 := by
    rw [short_iff, ← Option.any_eq_true]
    decide +kernel
  exact ⟨hon, hshort, (notice_stands_while_short NoticeLog.empty settings calls hon).2.1 0
    hshort hidle⟩

end Accounting
end Filament
