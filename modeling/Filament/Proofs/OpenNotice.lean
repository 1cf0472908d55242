import Filament.Proofs.Recorded
import Mathlib.Data.List.Induction

/-!
The open notice.

The history of a run holds every notice shown, every notice handed over for removal, and every
notice reported closed, in their order. A warning state follows a history step by step
(`Happening.step?`); a notice can only be shown when none is open and only the open one can be
removed, while reports of closed notices may come at any time and name anything. Every call follows
the history that it adds (`call_follows`), and what a history that can be followed looks like is
read off it alone. Together they give `notice_open_iff_warned`.
-/

namespace Filament

variable {α ν : Type}

/-- What happened to a notice. -/
inductive Happening where
  | shown (id : Nat)
  | removed (id : Nat)
  | closed (id : Nat)
deriving DecidableEq, Repr

/-- The notice was shown, and since then neither removed nor closed. -/
def IsOpen (history : List Happening) (id : Nat) : Prop :=
  ∃ earlier later, history = earlier ++ .shown id :: later ∧
    .removed id ∉ later ∧ .closed id ∉ later

namespace Happening

def ofRecord : NoticeRecord → Happening
  | .shown id _ => .shown id
  | .removed id _ => .removed id

def shownId? : Happening → Option Nat
  | .shown id => some id
  | _ => none

def removedId? : Happening → Option Nat
  | .removed id => some id
  | _ => none

/-- The warning state after it; none where it must not happen. -/
def step? : WarningState → Happening → Option WarningState
  | .idle, .shown id => some (.warned id)
  | .warned _, .shown _ => none
  | state, .removed id => if state = .warned id then some .idle else none
  | state, .closed id => some (if state = .warned id then .idle else state)

def removedIds (history : List Happening) : List Nat := history.filterMap removedId?

def shownIds (history : List Happening) : List Nat := history.filterMap shownId?

theorem removedIds_snoc (history : List Happening) (x : Happening) :
    removedIds (history ++ [x]) = removedIds history ++ x.removedId?.toList := by
  cases x <;> simp [removedIds, removedId?]

theorem shownIds_snoc (history : List Happening) (x : Happening) :
    shownIds (history ++ [x]) = shownIds history ++ x.shownId?.toList := by
  cases x <;> simp [shownIds, shownId?]

end Happening

def WarningState.openId? : WarningState → Option Nat
  | .idle => none
  | .warned id => some id

/-! ## Histories that a warning state follows -/

/-- The warning state at the end of a history that starts with no notice open. -/
def follow? (history : List Happening) : Option WarningState :=
  history.foldlM Happening.step? .idle

theorem follow?_snoc {history : List Happening} {x : Happening} {state : WarningState} :
    follow? (history ++ [x]) = some state ↔
      ∃ before, follow? history = some before ∧ Happening.step? before x = some state := by
  simp [follow?, List.foldlM_append, Option.bind_eq_some_iff]

/-- Whatever is a beginning of a history that can be followed can be followed. -/
theorem follow?_append {earlier later : List Happening} {state : WarningState}
    (h : follow? (earlier ++ later) = some state) :
    ∃ between, follow? earlier = some between ∧
      later.foldlM Happening.step? between = some state := by
  simpa [follow?, List.foldlM_append, Option.bind_eq_some_iff] using h

theorem follow?_removed {earlier later : List Happening} {id : Nat} {state : WarningState}
    (h : follow? (earlier ++ .removed id :: later) = some state) :
    follow? earlier = some (.warned id) := by
  obtain ⟨between, hbetween, hlater⟩ := follow?_append h
  by_cases hid : between = .warned id
  · rw [hbetween, hid]
  · simp [Happening.step?, hid] at hlater

theorem follow?_shown {earlier later : List Happening} {id : Nat} {state : WarningState}
    (h : follow? (earlier ++ .shown id :: later) = some state) : follow? earlier = some .idle := by
  obtain ⟨between, hbetween, hlater⟩ := follow?_append h
  cases between with
  | idle => exact hbetween
  | warned old => simp [Happening.step?] at hlater

theorem isOpen_snoc {history : List Happening} {x : Happening} {id : Nat} :
    IsOpen (history ++ [x]) id ↔
      x = .shown id ∨ (IsOpen history id ∧ x ≠ .removed id ∧ x ≠ .closed id) := by
  constructor
  · rintro ⟨earlier, later, heq, hremoved, hclosed⟩
    rcases List.eq_nil_or_concat later with rfl | ⟨front, last, rfl⟩
    · left
      exact (List.append_inj' heq rfl).2 |> List.head_eq_of_cons_eq
    · right
      rw [List.concat_eq_append, ← List.cons_append, ← List.append_assoc] at heq
      obtain ⟨rfl, hlast⟩ := List.append_inj' heq rfl
      obtain rfl := List.head_eq_of_cons_eq hlast
      simp only [List.concat_eq_append, List.mem_append, List.mem_singleton, not_or]
        at hremoved hclosed
      exact ⟨⟨earlier, front, rfl, hremoved.1, hclosed.1⟩, Ne.symm hremoved.2, Ne.symm hclosed.2⟩
  · rintro (rfl | ⟨⟨earlier, later, rfl, hremoved, hclosed⟩, hx, hx'⟩)
    · exact ⟨history, [], rfl, List.not_mem_nil, List.not_mem_nil⟩
    · refine ⟨earlier, later ++ [x], by simp, ?_, ?_⟩
      · simp [hremoved, Ne.symm hx]
      · simp [hclosed, Ne.symm hx']

/-- The state names the open notice. -/
theorem isOpen_iff_of_follow? {history : List Happening} {state : WarningState}
    (h : follow? history = some state) (id : Nat) : IsOpen history id ↔ state = .warned id := by
  induction history using List.reverseRecOn generalizing state with
  | nil =>
    obtain rfl : WarningState.idle = state := by simpa [follow?] using h
    simp [IsOpen]
  | append_singleton history x ih =>
    obtain ⟨before, hbefore, hstep⟩ := follow?_snoc.mp h
    rw [isOpen_snoc, ih hbefore]
    cases x with
    | shown new =>
      cases before with
      | idle =>
        obtain rfl : WarningState.warned new = state := by simpa [Happening.step?] using hstep
        simp
      | warned old => simp [Happening.step?] at hstep
    | removed old =>
      by_cases hold : before = .warned old
      · obtain rfl : WarningState.idle = state := by simpa [Happening.step?, hold] using hstep
        simp [hold]
      · simp [Happening.step?, hold] at hstep
    | closed other =>
      simp only [Happening.step?, Option.some.injEq] at hstep
      subst hstep
      by_cases hother : before = .warned other
      · simp [hother]
      · simp only [hother, if_false]
        constructor
        · rintro (hx | ⟨hid, -⟩)
          · cases hx
          · exact hid
        · intro hid
          refine Or.inr ⟨hid, by simp, ?_⟩
          rintro ⟨⟩
          exact hother hid

namespace Happening

/-- What is removed or still open in the end was open at first or is shown. -/
theorem step?_sublist {before after : WarningState} {x : Happening}
    (h : step? before x = some after) :
    (x.removedId?.toList ++ after.openId?.toList).Sublist
      (before.openId?.toList ++ x.shownId?.toList) := by
  cases x with
  | shown id =>
    cases before with
    | idle =>
      obtain rfl : WarningState.warned id = after := by simpa [step?] using h
      exact List.Sublist.refl [id]
    | warned old => simp [step?] at h
  | removed id =>
    by_cases hid : before = .warned id
    · obtain rfl : WarningState.idle = after := by simpa [step?, hid] using h
      rw [hid]
      exact List.Sublist.refl [id]
    · simp [step?, hid] at h
  | closed id =>
    simp only [step?, Option.some.injEq] at h
    subst h
    split
    · exact List.nil_sublist _
    · simp [removedId?, shownId?]

/-- The notices removed are among those shown, in the same order, and the open one comes after
them. -/
theorem removedIds_sublist {history : List Happening} {state : WarningState}
    (h : follow? history = some state) :
    (removedIds history ++ state.openId?.toList).Sublist (shownIds history) := by
  induction history using List.reverseRecOn generalizing state with
  | nil =>
    obtain rfl : WarningState.idle = state := by simpa [follow?] using h
    exact List.Sublist.refl []
  | append_singleton history x ih =>
    obtain ⟨before, hbefore, hstep⟩ := follow?_snoc.mp h
    rw [removedIds_snoc, shownIds_snoc, List.append_assoc]
    have hx := (step?_sublist hstep).append_left (removedIds history)
    rw [← List.append_assoc (removedIds history) before.openId?.toList] at hx
    exact hx.trans ((ih hbefore).append_right x.shownId?.toList)

end Happening

/-! ## What the calls of a run add -/

/-- The notice that a call reports closed. -/
def Call.closing : Call α → List Happening
  | .dispatch (.noticeClosed id) => [.closed id]
  | _ => []

theorem Call.closing_eq_nil {c : Call α} (h : ∀ id, c ≠ .dispatch (.noticeClosed id)) :
    c.closing = [] := by
  cases c with
  | dispatch event =>
    cases event with
    | noticeClosed id => exact absurd rfl (h id)
    | _ => rfl
  | _ => rfl

theorem Watch.respond_follows [Notifier ν] (w : Watch α (Recorded ν)) (fresh : Option Nat)
    (anyShort : Bool) :
    (((w.respond fresh anyShort).2.notifier.since w.notifier).map Happening.ofRecord).foldlM
      Happening.step? w.state = some (w.respond fresh anyShort).2.state := by
  have h := w.respond_responds fresh anyShort
  generalize w.respond fresh anyShort = result at h ⊢
  cases h with
  | opened hstate =>
    rw [hstate]
    simp [Notifier.post, Recorded.since, Happening.ofRecord, Happening.step?]
  | replaced old hstate =>
    rw [hstate]
    simp [Notifier.post, Notifier.retire, Recorded.since, Happening.ofRecord, Happening.step?]
  | dismissed id hstate =>
    rw [hstate]
    simp [Notifier.retire, Recorded.since, Happening.ofRecord, Happening.step?]
  | off =>
    rw [Recorded.since_self]
    rfl
  | kept =>
    rw [Recorded.since_self]
    rfl

namespace Accounting

variable [Scalar α] [Notifier ν]

/-- What happens to notices in one call: what it reports, then what it asks of the shell. -/
def happenings (a : Accounting α (Recorded ν)) (c : Call α) : List Happening :=
  c.closing ++ ((a.call c).watch.notifier.since a.watch.notifier).map .ofRecord

/-- What happens to notices in a run. -/
def history (a : Accounting α (Recorded ν)) : List (Call α) → List Happening
  | [] => []
  | c :: calls => a.happenings c ++ (a.call c).history calls

theorem call_follows (a : Accounting α (Recorded ν)) (c : Call α) :
    (a.happenings c).foldlM Happening.step? a.watch.state = some (a.call c).watch.state := by
  rw [happenings]
  cases (Turn.mk a c).effect with
  | closed id hcall hout hwatch =>
    have hcall : c = .dispatch (.noticeClosed id) := hcall
    have hwatch : (a.call c).watch = a.watch.noticeClosed id := hwatch
    rw [hwatch, Watch.noticeClosed_notifier, Recorded.since_self, hcall]
    by_cases hid : a.watch.state = .warned id
    · simp [Call.closing, Happening.step?, Watch.noticeClosed, hid]
    · simp [Call.closing, Happening.step?, Watch.noticeClosed, hid]
  | quiet settings hcall hout hwatch =>
    have hwatch : (a.call c).watch = { a.watch with settings } := hwatch
    rw [Call.closing_eq_nil hcall, hwatch, Recorded.since_self]
    rfl
  | recomputed hcall hout hwatch =>
    have hwatch : (a.call c).watch = _ := hwatch
    rw [Call.closing_eq_nil hcall, List.nil_append, hwatch]
    exact Watch.respond_follows a.watch _ _

theorem history_follows (a : Accounting α (Recorded ν)) (calls : List (Call α)) :
    (a.history calls).foldlM Happening.step? a.watch.state = some (a.after calls).watch.state := by
  induction calls generalizing a with
  | nil => rfl
  | cons c rest ih =>
    rw [history, List.foldlM_append, call_follows]
    exact ih (a.call c)

theorem shownIds_happenings (a : Accounting α (Recorded ν)) (c : Call α) :
    Happening.shownIds (a.happenings c) =
      shownIds ((a.call c).watch.notifier.since a.watch.notifier) := by
  have hclosing : Happening.shownIds c.closing = [] := by
    simp only [Call.closing]
    split <;> rfl
  have hrecord : Happening.shownId? ∘ Happening.ofRecord = NoticeRecord.shownId? := by
    funext r
    cases r <;> rfl
  rw [happenings, Happening.shownIds, List.filterMap_append, List.filterMap_map,
    ← Happening.shownIds, hclosing, List.nil_append, hrecord, shownIds]

theorem shownIds_history (a : Accounting α (Recorded ν)) (calls : List (Call α)) :
    shownIds (a.after calls).watch.notifier.records =
      shownIds a.watch.notifier.records ++ Happening.shownIds (a.history calls) := by
  induction calls generalizing a with
  | nil => simp [after, history, Happening.shownIds]
  | cons c rest ih =>
    have hcall : shownIds (a.call c).watch.notifier.records =
        shownIds a.watch.notifier.records ++ Happening.shownIds (a.happenings c) := by
      rw [call_records, shownIds_happenings, shownIds, List.filterMap_append]
      rfl
    have hhistory : Happening.shownIds (a.history (c :: rest)) =
        Happening.shownIds (a.happenings c) ++ Happening.shownIds ((a.call c).history rest) :=
      List.filterMap_append
    rw [hhistory, ← List.append_assoc, ← hcall]
    exact ih (a.call c)

/-- In every run with a shell that never repeats an id, the warning state names the open notice and
is idle when none is; at no point of the history are two notices open. Only the open notice is ever
removed, and none twice; a notice is shown only when the one open before is gone. -/
theorem notice_open_iff_warned {shell : ν} (hshell : Notifier.NeverRepeats shell)
    (settings : Settings α) (calls : List (Call α)) :
    let history := (start (Recorded.start shell) settings).history calls
    let state := ((start shell settings).after calls).watch.state
    (∀ id, IsOpen history id ↔ state = .warned id) ∧
    ((∀ id, ¬IsOpen history id) ↔ state = .idle) ∧
    (∀ earlier, earlier <+: history → ∀ a b, IsOpen earlier a → IsOpen earlier b → a = b) ∧
    (∀ earlier id later, history = earlier ++ .removed id :: later → IsOpen earlier id) ∧
    (Happening.removedIds history).Nodup ∧
    (∀ earlier id later, history = earlier ++ .shown id :: later →
      ∀ other, ¬IsOpen earlier other) := by
  intro history state
  have hfollow : follow? history = some state := by
    have hstate : ((start (Recorded.start shell) settings).after calls).watch.state = state :=
      congrArg (fun a : Accounting α ν => a.watch.state)
        (unrecorded_after (start (Recorded.start shell) settings) calls)
    rw [← hstate]
    exact history_follows (start (Recorded.start shell) settings) calls
  refine ⟨isOpen_iff_of_follow? hfollow, ?_, ?_, ?_, ?_, ?_⟩
  · simp only [isOpen_iff_of_follow? hfollow]
    cases state with
    | idle => simp
    | warned id => simp
  · rintro earlier ⟨later, hlater⟩ a b ha hb
    rw [← hlater] at hfollow
    obtain ⟨between, hbetween, -⟩ := follow?_append hfollow
    rw [isOpen_iff_of_follow? hbetween] at ha hb
    exact WarningState.warned.inj (ha.symm.trans hb)
  · intro earlier id later heq
    rw [heq] at hfollow
    exact (isOpen_iff_of_follow? (follow?_removed hfollow) id).mpr rfl
  · have hnodup := shownIds_nodup hshell settings calls
    rw [shownIds_history] at hnodup
    have hsub := (List.sublist_append_left _ _).trans (Happening.removedIds_sublist hfollow)
    exact hsub.nodup hnodup
  · intro earlier id later heq other hother
    rw [heq] at hfollow
    rw [isOpen_iff_of_follow? (follow?_shown hfollow)] at hother
    cases hother

/-- An overdrawn spool opens the first notice of the shell that only keeps the record; a report
about another notice leaves it open. -/
theorem notice_open_iff_warned_log :
    let calls : List (Call Float) :=
      [.dispatch (.toolCountChanged 1),
        .dispatch (.selectionChanged 0 (some { Spool.standard with used := 2000 })),
        .dispatch (.noticeClosed 2)]
    Notifier.NeverRepeats NoticeLog.empty ∧
      IsOpen ((start (Recorded.start NoticeLog.empty) Settings.standard).history calls) 1 := by
  intro calls
  have hstate : ((start NoticeLog.empty Settings.standard).after calls).watch.state =
      .warned 1 := by
    decide +kernel
  have hlog := NoticeLog.neverRepeats NoticeLog.empty
  exact ⟨hlog, ((notice_open_iff_warned hlog Settings.standard calls).1 1).mpr hstate⟩

end Accounting
end Filament
