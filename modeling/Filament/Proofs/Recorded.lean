import Filament.Proofs.Recompute
import Filament.Proofs.Run

/-!
Shells that keep a record.

`Recorded ν` is a shell of any kind together with what it was asked to do, so a statement about the
notices of a run can speak of all that was asked of the shell. The record is only kept: dropping it
gives the run with the shell alone (`unrecorded_after`). A call uses the shell only to show and to
take down notices, so what both keep, every run keeps (`after_notifier`); in particular the ids in
the record are the shell's own answers (`shownIds_nodup`).
-/

namespace Filament

variable {α ν : Type}

/-- A shell with the record of what it was asked, oldest first. -/
structure Recorded (ν : Type) where
  shell : ν
  records : List NoticeRecord

namespace Recorded

def start (shell : ν) : Recorded ν where
  shell := shell
  records := []

instance [Notifier ν] : Notifier (Recorded ν) where
  post notice r :=
    ((Notifier.post notice r.shell).1,
      { shell := (Notifier.post notice r.shell).2
        records := r.records ++ [.shown (Notifier.post notice r.shell).1 notice] })
  retire id delay r :=
    { shell := Notifier.retire id delay r.shell
      records := r.records ++ [.removed id delay] }

/-- The records added since an earlier moment. -/
def since (now earlier : Recorded ν) : List NoticeRecord :=
  now.records.drop earlier.records.length

@[simp] theorem since_self (r : Recorded ν) : r.since r = [] := by
  rw [since, List.drop_length]

end Recorded

/-- The id of a notice shown. -/
def NoticeRecord.shownId? : NoticeRecord → Option Nat
  | .shown id _ => some id
  | .removed _ _ => none

/-- The ids of the notices shown, in their order. -/
def shownIds (records : List NoticeRecord) : List Nat := records.filterMap NoticeRecord.shownId?

/-! ## Shells that never repeat an id -/

/-- What a shell is asked. -/
inductive ShellCall where
  | post (notice : Notice)
  | retire (id delay : Nat)

namespace Notifier

variable [Notifier ν]

/-- The ids that a shell gives in answer to calls in a row, and the shell after them. -/
def answers : ν → List ShellCall → List Nat × ν
  | shell, [] => ([], shell)
  | shell, .post notice :: calls =>
    let (ids, last) := answers (Notifier.post notice shell).2 calls
    ((Notifier.post notice shell).1 :: ids, last)
  | shell, .retire id delay :: calls => answers (Notifier.retire id delay shell) calls

/-- Whatever it is asked, the shell gives no id twice. -/
def NeverRepeats (shell : ν) : Prop := ∀ calls, (answers shell calls).1.Nodup

theorem answers_append (shell : ν) (first second : List ShellCall) :
    answers shell (first ++ second) =
      ((answers shell first).1 ++ (answers (answers shell first).2 second).1,
        (answers (answers shell first).2 second).2) := by
  induction first generalizing shell with
  | nil => rfl
  | cons c rest ih =>
    cases c with
    | post notice => simp [answers, ih]
    | retire id delay => simp [answers, ih]

end Notifier

theorem NoticeLog.answers_ge (calls : List ShellCall) (log : NoticeLog) :
    ∀ id ∈ (Notifier.answers log calls).1, log.nextId ≤ id := by
  induction calls generalizing log with
  | nil => simp [Notifier.answers]
  | cons c rest ih =>
    cases c with
    | post notice =>
      intro id hid
      rcases List.mem_cons.mp hid with rfl | hid
      · exact Nat.le_refl _
      · exact Nat.le_of_succ_le (ih _ id hid)
    | retire id delay => exact ih _

/-- The shell that only keeps the record counts its notices. -/
theorem NoticeLog.neverRepeats (log : NoticeLog) : Notifier.NeverRepeats log := by
  intro calls
  induction calls generalizing log with
  | nil => exact List.nodup_nil
  | cons c rest ih =>
    cases c with
    | post notice =>
      refine List.nodup_cons.mpr ⟨fun hmem => ?_, ih _⟩
      exact Nat.not_succ_le_self _ (answers_ge rest _ _ hmem)
    | retire id delay => exact ih _

/-- The shell and its record agree: some calls led the shell where it is, and the record holds the
ids that it gave. -/
def Recorded.Answers [Notifier ν] (shell : ν) (r : Recorded ν) : Prop :=
  ∃ calls, Notifier.answers shell calls = (shownIds r.records, r.shell)

theorem Recorded.answers_start [Notifier ν] (shell : ν) : Answers shell (start shell) := ⟨[], rfl⟩

theorem Recorded.answers_post [Notifier ν] {shell : ν} {r : Recorded ν} (h : Answers shell r)
    (notice : Notice) : Answers shell (Notifier.post notice r).2 := by
  obtain ⟨calls, hcalls⟩ := h
  refine ⟨calls ++ [.post notice], ?_⟩
  simp [Notifier.answers_append, hcalls, Notifier.answers, Notifier.post, shownIds,
    NoticeRecord.shownId?]

theorem Recorded.answers_retire [Notifier ν] {shell : ν} {r : Recorded ν} (h : Answers shell r)
    (id delay : Nat) : Answers shell (Notifier.retire id delay r) := by
  obtain ⟨calls, hcalls⟩ := h
  refine ⟨calls ++ [.retire id delay], ?_⟩
  simp [Notifier.answers_append, hcalls, Notifier.answers, Notifier.retire, shownIds,
    NoticeRecord.shownId?]

/-! ## What a run does with the shell -/

section Notifier

variable [Notifier ν] {P : ν → Prop}

theorem Watch.respond_notifier (hpost : ∀ notice n, P n → P (Notifier.post notice n).2)
    (hretire : ∀ id delay n, P n → P (Notifier.retire id delay n)) {w : Watch α ν}
    (h : P w.notifier) (fresh : Option Nat) (anyShort : Bool) :
    P (w.respond fresh anyShort).2.notifier := by
  have hresponds := w.respond_responds fresh anyShort
  generalize w.respond fresh anyShort = result at hresponds ⊢
  cases hresponds with
  | opened => exact hpost _ _ h
  | replaced => exact hpost _ _ (hretire _ _ _ h)
  | dismissed => exact hretire _ _ _ h
  | off => exact h
  | kept => exact h

/-- What the response returns as the notice shown is all that it shows. -/
theorem Watch.respond_shown (w : Watch α (Recorded ν)) (fresh : Option Nat) (anyShort : Bool) :
    shownIds ((w.respond fresh anyShort).2.notifier.since w.notifier) =
      (w.respond fresh anyShort).1.1.toList := by
  have h := w.respond_responds fresh anyShort
  generalize w.respond fresh anyShort = result at h ⊢
  cases h with
  | opened =>
    simp only [Notifier.post, Recorded.since, List.drop_left]
    rfl
  | replaced old =>
    simp only [Notifier.post, Notifier.retire, Recorded.since, List.append_assoc, List.drop_left]
    rfl
  | dismissed id =>
    simp only [Notifier.retire, Recorded.since, List.drop_left]
    rfl
  | off =>
    rw [Recorded.since_self]
    rfl
  | kept =>
    rw [Recorded.since_self]
    rfl

variable [Scalar α]

theorem Accounting.call_notifier (hpost : ∀ notice n, P n → P (Notifier.post notice n).2)
    (hretire : ∀ id delay n, P n → P (Notifier.retire id delay n)) (a : Accounting α ν)
    (c : Call α) (h : P a.watch.notifier) : P (a.call c).watch.notifier := by
  show P (Turn.mk a c).after.watch.notifier
  cases (Turn.mk a c).effect with
  | closed id hcall hout hwatch =>
    rw [hwatch, Watch.noticeClosed_notifier]
    exact h
  | quiet settings hcall hout hwatch =>
    rw [hwatch]
    exact h
  | recomputed hcall hout hwatch =>
    rw [hwatch]
    exact Watch.respond_notifier hpost hretire h _ _

/-- A run only shows notices and takes them down. -/
theorem Accounting.after_notifier (hpost : ∀ notice n, P n → P (Notifier.post notice n).2)
    (hretire : ∀ id delay n, P n → P (Notifier.retire id delay n)) {a : Accounting α ν}
    (h : P a.watch.notifier) (calls : List (Call α)) : P (a.after calls).watch.notifier :=
  after_induction (P := fun a => P a.watch.notifier) (call_notifier hpost hretire) h calls

/-- A call only adds to the record. -/
theorem Accounting.call_records (a : Accounting α (Recorded ν)) (c : Call α) :
    (a.call c).watch.notifier.records =
      a.watch.notifier.records ++ (a.call c).watch.notifier.since a.watch.notifier := by
  have hprefix : a.watch.notifier.records <+: (a.call c).watch.notifier.records :=
    call_notifier (P := fun r => a.watch.notifier.records <+: r.records)
      (fun _ _ h => h.trans (List.prefix_append _ _))
      (fun _ _ _ h => h.trans (List.prefix_append _ _))
      a c (List.prefix_refl _)
  obtain ⟨added, hadded⟩ := hprefix
  rw [Recorded.since, ← hadded, List.drop_left]

/-- A shell that never repeats an id shows no two notices of a run under one id. -/
theorem Accounting.shownIds_nodup {shell : ν} (h : Notifier.NeverRepeats shell)
    (settings : Settings α) (calls : List (Call α)) :
    (shownIds
      ((start (Recorded.start shell) settings).after calls).watch.notifier.records).Nodup := by
  obtain ⟨asked, hasked⟩ : Recorded.Answers shell
      ((start (Recorded.start shell) settings).after calls).watch.notifier :=
    after_notifier (P := Recorded.Answers shell)
      (fun notice _ hr => Recorded.answers_post hr notice)
      (fun id delay _ hr => Recorded.answers_retire hr id delay)
      (a := start (Recorded.start shell) settings) (Recorded.answers_start shell) calls
  have hnodup := h asked
  rw [hasked] at hnodup
  exact hnodup

end Notifier

/-! ## Dropping the record -/

def Watch.unrecorded (w : Watch α (Recorded ν)) : Watch α ν where
  notifier := w.notifier.shell
  settings := w.settings
  state := w.state
  file := w.file
  snapshots := w.snapshots
  consumption := w.consumption

/-- The accounting with the shell alone. -/
def Accounting.unrecorded (a : Accounting α (Recorded ν)) : Accounting α ν where
  registry := a.registry
  job := a.job
  watch := a.watch.unrecorded
  print := a.print
  listeners := a.listeners

theorem Watch.unrecorded_noticeClosed (w : Watch α (Recorded ν)) (id : Nat) :
    (w.noticeClosed id).unrecorded = w.unrecorded.noticeClosed id := by
  by_cases h : w.state = .warned id <;> simp [noticeClosed, unrecorded, h]

namespace Accounting

variable [Scalar α]

theorem unrecorded_take (a : Accounting α (Recorded ν)) (event : Event α) :
    (take event).run a.unrecorded =
    (((take event).run a).1, ((take event).run a).2.unrecorded) := by
  cases event with
  | toolCountChanged count =>
    by_cases hmax : count ≤ maxToolCount
    · rw [run_take_toolCountChanged_of_le hmax, run_take_toolCountChanged_of_le hmax]
      rfl
    · rw [run_take_toolCountChanged_of_lt (Nat.not_le.mp hmax),
        run_take_toolCountChanged_of_lt (Nat.not_le.mp hmax)]
  | selectionChanged tool spool =>
    by_cases hlt : tool < a.registry.toolCount
    · rw [run_take_selectionChanged_of_lt hlt, run_take_selectionChanged_of_lt
        (a := a.unrecorded) hlt]
      rfl
    · rw [run_take_selectionChanged_of_le (Nat.not_lt.mp hlt),
        run_take_selectionChanged_of_le (a := a.unrecorded) (Nat.not_lt.mp hlt)]
      rfl
  | backendSelections selections => rfl
  | telemetryChanged filament => rfl
  | fileChanged file => rfl
  | noticeClosed id =>
    rw [run_take_noticeClosed, run_take_noticeClosed]
    unfold unrecorded
    rw [Watch.unrecorded_noticeClosed]
  | settingsChanged settings =>
    cases hcheck : settings.check with
    | error e =>
      rw [run_take_settingsChanged_of_error hcheck, run_take_settingsChanged_of_error hcheck]
    | ok u =>
      rw [run_take_settingsChanged_of_ok hcheck, run_take_settingsChanged_of_ok hcheck]
      rfl

theorem unrecorded_noted (a : Accounting α (Recorded ν)) (event : Event α) :
    (a.noted event).unrecorded = a.unrecorded.noted event := by
  simp only [noted]
  split <;> rfl

end Accounting

variable [Notifier ν]

theorem Watch.unrecorded_respond (w : Watch α (Recorded ν)) (fresh : Option Nat) (anyShort : Bool) :
    (w.respond fresh anyShort).1 = (w.unrecorded.respond fresh anyShort).1 ∧
      (w.respond fresh anyShort).2.unrecorded = (w.unrecorded.respond fresh anyShort).2 := by
  obtain ⟨notifier, settings, state, file, snapshots, consumption⟩ := w
  cases fresh with
  | some tool =>
    cases henabled : settings.enableWarning with
    | false => simp [respond, unrecorded, henabled]
    | true =>
      cases state <;> simp [respond, raise, unrecorded, henabled, Notifier.post, Notifier.retire]
  | none =>
    cases henabled : settings.enableWarning with
    | false => simp [respond, unrecorded, henabled]
    | true =>
      cases hdismiss : !anyShort && settings.dismissResolvedWarning with
      | false => simp [respond, unrecorded, henabled, hdismiss]
      | true =>
        cases state <;> simp [respond, dismiss, unrecorded, henabled, hdismiss, Notifier.retire]

variable [Scalar α]

theorem Watch.unrecorded_recompute (w : Watch α (Recorded ν)) (r : Registry α) (j : Job α) :
    (w.recompute r j).1 = (w.unrecorded.recompute r j).1 ∧
      (w.recompute r j).2.unrecorded = (w.unrecorded.recompute r j).2 := by
  obtain ⟨hresult, hwatch⟩ : (w.response r j).1 = (w.unrecorded.response r j).1 ∧
      (w.response r j).2.unrecorded = (w.unrecorded.response r j).2 := unrecorded_respond w _ _
  constructor
  · rw [recompute_fst, recompute_fst, hresult]
    rfl
  · rw [recompute_snd, recompute_snd, ← hwatch]
    rfl

namespace Accounting

theorem unrecorded_recompute (a : Accounting α (Recorded ν)) :
    a.recompute.1 = a.unrecorded.recompute.1 ∧
      a.recompute.2.unrecorded = a.unrecorded.recompute.2 := by
  obtain ⟨hresult, hwatch⟩ := Watch.unrecorded_recompute a.watch a.registry a.job
  refine ⟨hresult, ?_⟩
  show { a.unrecorded with watch := (a.watch.recompute a.registry a.job).2.unrecorded } =
    { a.unrecorded with watch := (a.watch.unrecorded.recompute a.registry a.job).2 }
  rw [hwatch]

theorem unrecorded_dispatch (a : Accounting α (Recorded ν)) (event : Event α) :
    ((dispatch event).run a).1 = ((dispatch event).run a.unrecorded).1 ∧
      ((dispatch event).run a).2.unrecorded = ((dispatch event).run a.unrecorded).2 := by
  have htake := unrecorded_take a event
  rcases take_cases a event with ⟨e, h⟩ | ⟨changed, b, h⟩
  · rw [h] at htake
    rw [dispatch_error h, dispatch_error htake]
    exact ⟨rfl, rfl⟩
  · rw [h] at htake
    cases changed with
    | false =>
      rw [dispatch_false h, dispatch_false htake]
      exact ⟨rfl, rfl⟩
    | true =>
      obtain ⟨hresult, hlater⟩ := unrecorded_recompute (b.noted event)
      rw [unrecorded_noted] at hresult hlater
      rw [dispatch_true h, dispatch_true htake]
      refine ⟨by rw [hresult], ?_⟩
      show ((b.noted event).recompute.2.unrecorded).tell _ = _
      rw [hlater, hresult]

theorem unrecorded_call (a : Accounting α (Recorded ν)) (c : Call α) :
    (a.call c).unrecorded = a.unrecorded.call c := by
  cases c with
  | subscribe l => rfl
  | dispatch event => exact (unrecorded_dispatch a event).2
  | startPrint => rfl
  | feedLine line => rfl
  | finishPrint => rfl

/-- Keeping the record changes nothing else. -/
theorem unrecorded_after (a : Accounting α (Recorded ν)) (calls : List (Call α)) :
    (a.after calls).unrecorded = a.unrecorded.after calls := by
  induction calls generalizing a with
  | nil => rfl
  | cons c rest ih =>
    show ((a.call c).after rest).unrecorded = (a.unrecorded.call c).after rest
    rw [ih, unrecorded_call]

end Accounting
end Filament
