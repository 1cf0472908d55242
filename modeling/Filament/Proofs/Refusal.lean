import Filament.Backend
import Filament.Proofs.Recorded
import Filament.Proofs.Slots
import Mathlib.Data.List.Forall2
import Mathlib.Data.List.Induction

/-!
Which events are refused, and what listeners hear.

An event is refused for the causes that `Event.refusal?` lists and for no others
(`take_eq_error_iff`). A refused event leaves the accounting as it is, the record of the shell and
the listeners included. Of an event that is not refused every listener hears once, and then of the
recompute that it led to, if it led to one. The listeners are those who subscribed, and nobody
forgets what was heard (`listeners_after`). The printer never has more tools than a printer may
have, for a refused tool count does not reach the registry (`dispatch_refused_iff`).
-/

namespace Filament

variable {α ν : Type}

/-- The listener when it was told of an event, and then of what was found, if anything was. -/
def Listener.told (l : Listener α) (event : Event α) (outcome : Option (Outcome α)) :
    Listener α where
  heard := l.heard ++ .event event :: (outcome.map .recompute).toList

variable [Scalar α]

/-! ## Causes -/

/-- What an event is refused for on a printer with `count` tools: more tools than a printer may
have, a spool for a tool that it does not have, or settings that are out of range. -/
def Event.refusal? (count : Nat) : Event α → Option (Error α)
  | .toolCountChanged tools =>
    if maxToolCount < tools then some (.config (.tooManyTools tools)) else none
  | .selectionChanged tool _ => if tool < count then none else some (.outOfRange tool count)
  | .settingsChanged settings =>
    match settings.check with
    | .error e => some e
    | .ok _ => none
  | _ => none

theorem Event.exists_refusal?_iff {count : Nat} {event : Event α} :
    (∃ e, event.refusal? count = some e) ↔
      (∃ tools, event = .toolCountChanged tools ∧ maxToolCount < tools) ∨
      (∃ tool spool, event = .selectionChanged tool spool ∧ count ≤ tool) ∨
      ∃ settings, event = .settingsChanged settings ∧ settings.check ≠ .ok () := by
  cases event with
  | toolCountChanged tools =>
    by_cases hmax : maxToolCount < tools
    · simp [refusal?, hmax]
    · simp [refusal?, hmax]
  | selectionChanged tool spool =>
    by_cases hlt : tool < count
    · simp [refusal?, hlt]
    · simp [refusal?, hlt, Nat.not_lt.mp hlt]
  | settingsChanged settings =>
    cases hcheck : settings.check with
    | error e => simp [refusal?, hcheck]
    | ok u => simp [refusal?, hcheck]
  | _ => simp [refusal?]

/-- The one whom a call subscribes. -/
def Call.listener? : Call α → Option (Listener α)
  | .subscribe l => some l
  | _ => none

namespace Accounting

variable {a b : Accounting α ν} {event : Event α} {changed : Bool}

theorem take_eq_error_iff {e : Error α} :
    (take event).run a = (.error e, a) ↔ event.refusal? a.registry.toolCount = some e := by
  obtain ⟨result, b, hrun⟩ : ∃ result b, (take event).run a = (result, b) := ⟨_, _, rfl⟩
  rw [hrun]
  cases taken_of_run hrun with
  | tooManyTools h => simp [Event.refusal?, h]
  | resized h => simp [Event.refusal?, Nat.not_lt.mpr h]
  | unknownTool h => simp [Event.refusal?, Nat.not_lt.mpr h]
  | selected h => simp [Event.refusal?, h]
  | unacceptable h => simp [Event.refusal?, h]
  | configured h => simp [Event.refusal?, h]
  | _ => simp [Event.refusal?]

/-- Taking an event in leaves the tool count alone, unless the event sets it within its limit. -/
theorem toolCount_take (h : (take event).run a = (.ok changed, b)) :
    b.registry.toolCount = a.registry.toolCount ∨ b.registry.toolCount ≤ maxToolCount := by
  cases taken_of_run h with
  | @resized count _ registry hmax hresize =>
    have hcount := Registry.toolCount_resize a.registry count
    rw [hresize] at hcount
    exact Or.inr (hcount ▸ hmax)
  | selected => exact Or.inl List.length_set
  | @pushed selections _ registry hpush =>
    have hcount : (a.registry.push selections).2.toolCount = a.registry.toolCount :=
      Registry.toolCount_push
    rw [hpush] at hcount
    exact Or.inl hcount
  | metered => exact Or.inl rfl
  | named => exact Or.inl rfl
  | closed => exact Or.inl rfl
  | configured => exact Or.inl rfl

/-! ## One event -/

variable [Notifier ν]

/-- Apart from taking the event in, handling it leaves the registry alone. -/
theorem dispatch_registry (h : (take event).run a = (.ok changed, b)) :
    ((dispatch event).run a).2.registry = b.registry := by
  cases changed with
  | false =>
    rw [dispatch_false h]
    rfl
  | true =>
    rw [dispatch_true h]
    show (b.noted event).registry = b.registry
    unfold noted
    split <;> rfl

theorem exists_dispatch_error_iff :
    (∃ e, ((dispatch event).run a).1 = .error e) ↔
      ∃ e, event.refusal? a.registry.toolCount = some e := by
  rcases dispatch_cases a event with ⟨e, htake, hd⟩ | ⟨b, htake, hd⟩ | ⟨b, htake, hd⟩
  · rw [hd]
    exact iff_of_true ⟨e, rfl⟩ ⟨e, take_eq_error_iff.mp htake⟩
  all_goals
    rw [hd]
    refine iff_of_false (by simp) ?_
    rintro ⟨e, he⟩
    rw [take_eq_error_iff.mpr he] at htake
    cases htake

/-- A refused event changes nothing and is told to nobody. -/
theorem dispatch_snd_of_error {e : Error α} (h : ((dispatch event).run a).1 = .error e) :
    ((dispatch event).run a).2 = a := by
  rcases dispatch_cases a event with ⟨e', -, hd⟩ | ⟨b, -, hd⟩ | ⟨b, -, hd⟩
  · rw [hd]
  · rw [hd] at h
    cases h
  · rw [hd] at h
    cases h

/-- The listeners are told of the event, and of the recompute if there was one. -/
theorem listeners_dispatch {outcome : Option (Outcome α)}
    (h : ((dispatch event).run a).1 = .ok outcome) :
    ((dispatch event).run a).2.listeners = a.listeners.map (·.told event outcome) := by
  rcases dispatch_cases a event with ⟨e, -, hd⟩ | ⟨b, htake, hd⟩ | ⟨b, htake, hd⟩
  · rw [hd] at h
    cases h
  · rw [hd] at h ⊢
    obtain rfl : none = outcome := Except.ok.inj h
    show b.listeners.map (·.hear (.event event)) = _
    rw [listeners_take htake]
    rfl
  · rw [hd] at h ⊢
    obtain rfl := Except.ok.inj h
    have hnoted : (b.noted event).listeners = b.listeners.map (·.hear (.event event)) := by
      unfold noted
      split <;> rfl
    show (b.noted event).listeners.map (·.hear (.recompute _)) = _
    rw [hnoted, listeners_take htake, List.map_map]
    refine List.map_congr_left fun l _ => ?_
    show Listener.mk (l.heard ++ [.event event] ++ [.recompute _]) = _
    rw [List.append_assoc]
    rfl

/-! ## Runs -/

theorem toolCount_call (a : Accounting α ν) (c : Call α) (h : a.registry.toolCount ≤ maxToolCount) :
    (a.call c).registry.toolCount ≤ maxToolCount := by
  cases c with
  | subscribe l => exact h
  | dispatch event =>
    show ((dispatch event).run a).2.registry.toolCount ≤ maxToolCount
    rcases take_cases a event with ⟨e, htake⟩ | ⟨changed, b, htake⟩
    · rw [dispatch_error htake]
      exact h
    · rw [dispatch_registry htake]
      rcases toolCount_take htake with hsame | hmax
      · rw [hsame]
        exact h
      · exact hmax
  | startPrint => exact h
  | feedLine line => exact h
  | finishPrint => exact h

/-- A call keeps the listeners and what each has heard, adds the one whom it subscribes after them,
and may then tell them something more. -/
theorem exists_listeners_call (a : Accounting α ν) (c : Call α) :
    ∃ hears : Listener α → Listener α, (∀ l, l.heard <+: (hears l).heard) ∧
      (a.call c).listeners = (a.listeners ++ c.listener?.toList).map hears := by
  cases c with
  | dispatch event =>
    cases hresult : ((dispatch event).run a).1 with
    | error e =>
      refine ⟨id, fun l => List.prefix_rfl, ?_⟩
      simp [call, Call.listener?, dispatch_snd_of_error hresult]
    | ok outcome =>
      refine ⟨fun l => l.told event outcome, fun l => List.prefix_append l.heard _, ?_⟩
      simpa [call, Call.listener?] using listeners_dispatch hresult
  | _ =>
    refine ⟨id, fun l => List.prefix_rfl, ?_⟩
    simp [call, subscribe, startPrint, feedLine, finishPrint, Call.listener?]

/-- After a run those listen who were subscribed in it, in that order, and what each had heard
before is the beginning of what it has heard now. -/
theorem listeners_after (shell : ν) (settings : Settings α) (calls : List (Call α)) :
    List.Forall₂ (·.heard <+: ·.heard) (calls.filterMap Call.listener?)
      ((start shell settings).after calls).listeners := by
  induction calls using List.reverseRecOn with
  | nil => exact List.Forall₂.nil
  | append_singleton calls c ih =>
    obtain ⟨hears, hkept, hlisteners⟩ :=
      exists_listeners_call ((start shell settings).after calls) c
    have hboth : List.Forall₂ (·.heard <+: ·.heard)
        (calls.filterMap Call.listener? ++ c.listener?.toList)
        (((start shell settings).after calls).listeners ++ c.listener?.toList) :=
      List.rel_append ih (List.forall₂_same.mpr fun l _ => List.prefix_rfl)
    rw [after_snoc, hlisteners, List.filterMap_append, List.forall₂_map_right_iff]
    have hone : [c].filterMap Call.listener? = c.listener?.toList := by
      cases hc : c.listener? <;> simp [hc]
    rw [hone]
    exact hboth.imp fun l m h => h.trans (hkept m)

/-- After every run the printer has at most 64 tools. An event is refused exactly if it counts more
tools than that, selects a spool for a tool that the printer does not have, or brings settings that
fail their check, and then everything stays as it was: the registry, the job, the watch with its
settings and all that it remembers, the print, what the shell was asked, and what each listener was
told. Otherwise every listener hears of the event once, and then of a recompute exactly if an
outcome is returned. The listeners are all those who were subscribed in the run, whenever that was,
with whatever they had heard by then. -/
theorem dispatch_refused_iff (shell : ν) (settings : Settings α) (calls : List (Call α))
    (event : Event α) :
    let a := (start (Recorded.start shell) settings).after calls
    a.registry.toolCount ≤ 64 ∧
    ((∃ e, ((dispatch event).run a).1 = .error e) ↔
      (∃ tools, event = .toolCountChanged tools ∧ 64 < tools) ∨
      (∃ tool spool, event = .selectionChanged tool spool ∧ a.registry.toolCount ≤ tool) ∨
      ∃ settings, event = .settingsChanged settings ∧ settings.check ≠ .ok ()) ∧
    (∀ e, ((dispatch event).run a).1 = .error e → ((dispatch event).run a).2 = a) ∧
    (∀ outcome, ((dispatch event).run a).1 = .ok outcome →
      ((dispatch event).run a).2.listeners = a.listeners.map (·.told event outcome)) ∧
    List.Forall₂ (·.heard <+: ·.heard) (calls.filterMap Call.listener?) a.listeners := by
  intro a
  have hcount : a.registry.toolCount ≤ maxToolCount :=
    after_induction (P := fun a => a.registry.toolCount ≤ maxToolCount) toolCount_call
      (a := start (Recorded.start shell) settings) (Nat.zero_le _) calls
  exact ⟨hcount, exists_dispatch_error_iff.trans Event.exists_refusal?_iff,
    fun e h => dispatch_snd_of_error h, fun outcome h => listeners_dispatch h,
    listeners_after (Recorded.start shell) settings calls⟩

end Accounting

/-! ## Selecting a spool -/

namespace Session

variable {β : Type} [Backend β α] [Notifier ν] {s : Session α β ν} {tool : Nat}

/-- A tool that the printer does not have is refused, and nothing is asked of the backend. -/
theorem run_select_of_le (h : s.accounting.registry.toolCount ≤ tool) (id : Option Nat) :
    (select tool id).run s = (.error (.outOfRange tool s.accounting.registry.toolCount), s) := by
  have hget : s.accounting.registry.get tool =
      .error (.outOfRange tool s.accounting.registry.toolCount) := by
    unfold Registry.get
    rw [List.getElem?_eq_none h]
  unfold select
  rw [Action.run_bind, Action.run_get]
  dsimp only
  rw [Action.run_bind, Action.run_liftExcept, hget]

theorem run_select_of_lt (h : tool < s.accounting.registry.toolCount) (id : Option Nat) :
    (select tool id).run s =
      (do
        let selection ← onBackend (Backend.updateSelection tool id)
        dispatch (.selectionChanged selection.tool selection.spool) :
          Action (Session α β ν) (Error α) _).run s := by
  have hget : s.accounting.registry.get tool = .ok s.accounting.registry.slots[tool] := by
    unfold Registry.get
    rw [List.getElem?_eq_getElem h]
  unfold select
  rw [Action.run_bind, Action.run_get]
  dsimp only
  rw [Action.run_bind, Action.run_liftExcept, hget]

end Session

end Filament
