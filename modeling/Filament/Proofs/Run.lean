import Filament.Accounting
import Filament.Proofs.Check

/-!
Runs of an accounting.

A host dispatches events and reports a print, in any order and whatever the calls return. What
taking an event in can do is said once (`Taken`), and `dispatch_cases` says what follows when it is
refused, changes neither the selections nor the job, or changes one of them. What a call can do to
the watch follows from that (`Turn.effect`). A fact that every call keeps holds after every run
(`after_induction`).
-/

namespace Filament

variable {α ν : Type}

/-! ## Reports of no change

An operation that reports no change returns what it was given. -/

theorem Registry.eq_of_resize {r s : Registry α} {count : Nat}
    (h : r.resize count = (false, s)) : s = r := by
  unfold resize at h
  split at h
  · exact (Prod.mk.inj h).2.symm
  · cases h

namespace Registry

variable [BEq α]

theorem pushOne_true (slots : List (Option (Spool α))) (s : Selection α) :
    (pushOne (true, slots) s).1 = true := by
  simp only [pushOne]
  split
  · split <;> rfl
  · rfl

theorem pushOne_false {slots : List (Option (Spool α))} {s : Selection α}
    (h : (pushOne (false, slots) s).1 = false) : pushOne (false, slots) s = (false, slots) := by
  simp only [pushOne] at h ⊢
  split at h
  · split at h
    · simp_all
    · cases h
  · rfl

theorem foldl_pushOne_true (selections : List (Selection α)) (slots : List (Option (Spool α))) :
    (selections.foldl pushOne (true, slots)).1 = true := by
  induction selections generalizing slots with
  | nil => rfl
  | cons s rest ih =>
    rw [List.foldl_cons, ← Prod.eta (pushOne (true, slots) s), pushOne_true]
    exact ih _

theorem foldl_pushOne_false {selections : List (Selection α)} {slots : List (Option (Spool α))}
    (h : (selections.foldl pushOne (false, slots)).1 = false) :
    (selections.foldl pushOne (false, slots)).2 = slots := by
  induction selections with
  | nil => rfl
  | cons s rest ih =>
    rw [List.foldl_cons] at h ⊢
    have hone : (pushOne (false, slots) s).1 = false := by
      cases hs : (pushOne (false, slots) s).1 with
      | false => rfl
      | true =>
        rw [← Prod.eta (pushOne (false, slots) s), hs, foldl_pushOne_true] at h
        cases h
    rw [pushOne_false hone] at h ⊢
    exact ih h

theorem eq_of_push {r s : Registry α} {selections : List (Selection α)}
    (h : r.push selections = (false, s)) : s = r := by
  have hunchanged : (selections.foldl pushOne (false, r.slots)).1 = false := congrArg Prod.fst h
  have hslots := foldl_pushOne_false hunchanged
  unfold push at h
  generalize selections.foldl pushOne (false, r.slots) = state at h hunchanged hslots
  obtain ⟨changed, slots⟩ := state
  cases hunchanged
  cases hslots
  exact (Prod.mk.inj h).2.symm

end Registry

theorem Job.eq_of_setFile {j k : Job α} {file : Option String}
    (h : j.setFile file = (false, k)) : k = j := by
  unfold setFile at h
  split at h
  · exact (Prod.mk.inj h).2.symm
  · cases h

theorem Job.eq_of_setFilament [BEq α] {j k : Job α} {filament : List (Telemetry α)}
    (h : j.setFilament filament = (false, k)) : k = j := by
  unfold setFilament at h
  split at h
  · exact (Prod.mk.inj h).2.symm
  · cases h

namespace Registry

variable {r : Registry α} {tool : Nat}

theorem run_set_of_lt (h : tool < r.toolCount) (spool : Option (Spool α)) :
    (set tool spool).run r =
      (.ok (), { slots := r.slots.set tool spool, revision := r.revision + 1 }) := by
  unfold set
  rw [Action.run_bind, Action.run_get]
  dsimp only
  rw [if_neg (Nat.not_le.mpr h)]
  rfl

/-- A tool that the printer does not have is refused before anything is changed. -/
theorem run_set_of_le (h : r.toolCount ≤ tool) (spool : Option (Spool α)) :
    (set tool spool).run r = (.error (.outOfRange tool r.toolCount), r) := by
  unfold set
  rw [Action.run_bind, Action.run_get]
  dsimp only
  rw [if_pos h]
  rfl

end Registry

namespace Accounting

section

variable {γ : Type} (a : Accounting α ν)

theorem run_onRegistry (x : Action (Registry α) (Error α) γ) :
    (onRegistry x).run a =
      ((x.run a.registry).1, { a with registry := (x.run a.registry).2 }) := rfl

end

variable [Scalar α]

/-! ## Taking an event in

Each kind of event by itself: what it checks, and what it changes once the check has passed. -/

section

variable {a : Accounting α ν}

theorem run_take_toolCountChanged_of_le {count : Nat} (h : count ≤ maxToolCount) :
    (take (.toolCountChanged count)).run a =
      (.ok (a.registry.resize count).1, { a with registry := (a.registry.resize count).2 }) := by
  have hcheck : (checkToolCount count : Except (Error α) Nat) = .ok count :=
    if_neg (Nat.not_lt.mpr h)
  unfold take
  rw [Action.run_bind, Action.run_liftExcept, hcheck]
  rfl

theorem run_take_toolCountChanged_of_lt {count : Nat} (h : maxToolCount < count) :
    (take (.toolCountChanged count)).run a = (.error (.config (.tooManyTools count)), a) := by
  have hcheck : (checkToolCount count : Except (Error α) Nat) =
    .error (.config (.tooManyTools count)) := if_pos h
  unfold take
  rw [Action.run_bind, Action.run_liftExcept, hcheck]

theorem run_take_selectionChanged_of_lt {tool : Nat} (h : tool < a.registry.toolCount)
    (spool : Option (Spool α)) :
    (take (.selectionChanged tool spool)).run a =
      (.ok true, { a with
        registry := {
          slots := a.registry.slots.set tool spool
          revision := a.registry.revision + 1 } }) := by
  unfold take
  rw [Action.run_bind, run_onRegistry, Registry.run_set_of_lt h]
  rfl

theorem run_take_selectionChanged_of_le {tool : Nat} (h : a.registry.toolCount ≤ tool)
    (spool : Option (Spool α)) :
    (take (.selectionChanged tool spool)).run a =
      (.error (.outOfRange tool a.registry.toolCount), a) := by
  unfold take
  rw [Action.run_bind, run_onRegistry, Registry.run_set_of_le h]

theorem run_take_backendSelections (selections : List (Selection α)) :
    (take (.backendSelections selections)).run a =
      (.ok (a.registry.push selections).1,
        { a with registry := (a.registry.push selections).2 }) := rfl

theorem run_take_noticeClosed (id : Nat) :
    (take (.noticeClosed id)).run a = (.ok false, { a with watch := a.watch.noticeClosed id }) :=
  rfl

theorem run_take_settingsChanged_of_ok {settings : Settings α} (h : settings.check = .ok ()) :
    (take (.settingsChanged settings)).run a =
      (.ok false, followSelections { a with watch := { a.watch with settings } }) := by
  unfold take
  rw [Action.run_bind, Action.run_liftExcept, h]
  rfl

theorem run_take_settingsChanged_of_error {settings : Settings α} {e : Error α}
    (h : settings.check = .error e) :
    (take (.settingsChanged settings)).run a = (.error e, a) := by
  unfold take
  rw [Action.run_bind, Action.run_liftExcept, h]

/-- All that taking an event in can come to. Every check comes before every change, so an event that
is refused has changed nothing. -/
inductive Taken (a : Accounting α ν) :
    Event α → Except (Error α) Bool → Accounting α ν → Prop where
  | tooManyTools {count : Nat} (h : maxToolCount < count) :
      Taken a (.toolCountChanged count) (.error (.config (.tooManyTools count))) a
  | resized {count : Nat} {changed : Bool} {registry : Registry α} (h : count ≤ maxToolCount)
      (hresize : a.registry.resize count = (changed, registry)) :
      Taken a (.toolCountChanged count) (.ok changed) { a with registry }
  | unknownTool {tool : Nat} {spool : Option (Spool α)} (h : a.registry.toolCount ≤ tool) :
      Taken a (.selectionChanged tool spool) (.error (.outOfRange tool a.registry.toolCount)) a
  | selected {tool : Nat} {spool : Option (Spool α)} (h : tool < a.registry.toolCount) :
      Taken a (.selectionChanged tool spool) (.ok true)
        { a with
          registry := {
            slots := a.registry.slots.set tool spool
            revision := a.registry.revision + 1 } }
  | pushed {selections : List (Selection α)} {changed : Bool} {registry : Registry α}
      (hpush : a.registry.push selections = (changed, registry)) :
      Taken a (.backendSelections selections) (.ok changed) { a with registry }
  | metered {filament : List (Telemetry α)} {changed : Bool} {job : Job α}
      (hset : a.job.setFilament filament = (changed, job)) :
      Taken a (.telemetryChanged filament) (.ok changed) { a with job }
  | named {file : Option String} {changed : Bool} {job : Job α}
      (hset : a.job.setFile file = (changed, job)) :
      Taken a (.fileChanged file) (.ok changed) { a with job }
  | closed {id : Nat} :
      Taken a (.noticeClosed id) (.ok false) { a with watch := a.watch.noticeClosed id }
  | unacceptable {settings : Settings α} {e : Error α} (h : settings.check = .error e) :
      Taken a (.settingsChanged settings) (.error e) a
  | configured {settings : Settings α} (h : settings.check = .ok ()) :
      Taken a (.settingsChanged settings) (.ok false)
        (followSelections { a with watch := { a.watch with settings } })

theorem taken (a : Accounting α ν) (event : Event α) :
    Taken a event ((take event).run a).1 ((take event).run a).2 := by
  cases event with
  | toolCountChanged count =>
    by_cases hmax : count ≤ maxToolCount
    · rw [run_take_toolCountChanged_of_le hmax]
      exact .resized hmax rfl
    · rw [run_take_toolCountChanged_of_lt (Nat.not_le.mp hmax)]
      exact .tooManyTools (Nat.not_le.mp hmax)
  | selectionChanged tool spool =>
    by_cases hlt : tool < a.registry.toolCount
    · rw [run_take_selectionChanged_of_lt hlt]
      exact .selected hlt
    · rw [run_take_selectionChanged_of_le (Nat.not_lt.mp hlt)]
      exact .unknownTool (Nat.not_lt.mp hlt)
  | settingsChanged settings =>
    cases hcheck : settings.check with
    | error e =>
      rw [run_take_settingsChanged_of_error hcheck]
      exact .unacceptable hcheck
    | ok u =>
      rw [run_take_settingsChanged_of_ok hcheck]
      exact .configured hcheck
  | backendSelections selections => exact .pushed rfl
  | telemetryChanged filament => exact .metered rfl
  | fileChanged file => exact .named rfl
  | noticeClosed id => exact .closed

theorem taken_of_run {b : Accounting α ν} {event : Event α} {result : Except (Error α) Bool}
    (h : (take event).run a = (result, b)) : Taken a event result b := by
  have htaken := taken a event
  rwa [h] at htaken

theorem take_error {b : Accounting α ν} {event : Event α} {e : Error α}
    (h : (take event).run a = (.error e, b)) : b = a := by
  cases taken_of_run h <;> rfl

theorem take_cases (a : Accounting α ν) (event : Event α) :
    (∃ e, (take event).run a = (.error e, a)) ∨
      ∃ changed b, (take event).run a = (.ok changed, b) := by
  obtain ⟨result, b, hrun⟩ : ∃ result b, (take event).run a = (result, b) := ⟨_, _, rfl⟩
  cases result with
  | error e =>
    obtain rfl := take_error hrun
    exact Or.inl ⟨e, hrun⟩
  | ok changed => exact Or.inr ⟨changed, b, hrun⟩

end

/-! ## One event -/

/-- An event that changes neither the selections nor the job changes nothing at all, closes a notice
or brings new settings. -/
theorem take_false {a b : Accounting α ν} {event : Event α}
    (h : (take event).run a = (.ok false, b)) :
    b = a ∨
    (∃ id, event = .noticeClosed id ∧ b = { a with watch := a.watch.noticeClosed id }) ∨
    (∃ settings, event = .settingsChanged settings ∧ settings.check = .ok () ∧
      b = followSelections { a with watch := { a.watch with settings } }) := by
  cases taken_of_run h with
  | resized _ hresize =>
    obtain rfl := Registry.eq_of_resize hresize
    exact Or.inl rfl
  | pushed hpush =>
    obtain rfl := Registry.eq_of_push hpush
    exact Or.inl rfl
  | metered hset =>
    obtain rfl := Job.eq_of_setFilament hset
    exact Or.inl rfl
  | named hset =>
    obtain rfl := Job.eq_of_setFile hset
    exact Or.inl rfl
  | closed => exact Or.inr (Or.inl ⟨_, rfl, rfl⟩)
  | configured hcheck => exact Or.inr (Or.inr ⟨_, rfl, hcheck, rfl⟩)

/-- An event that changes the selections or the job leaves the watch, the print and the listeners
alone, and the registry too unless it concerns the selections. -/
theorem take_true {a b : Accounting α ν} {event : Event α}
    (h : (take event).run a = (.ok true, b)) :
    b.watch = a.watch ∧ b.print = a.print ∧ b.listeners = a.listeners ∧
      (event.concernsSelections = false → b.registry = a.registry) := by
  cases taken_of_run h with
  | resized => exact ⟨rfl, rfl, rfl, by simp [Event.concernsSelections]⟩
  | selected => exact ⟨rfl, rfl, rfl, by simp [Event.concernsSelections]⟩
  | pushed => exact ⟨rfl, rfl, rfl, by simp [Event.concernsSelections]⟩
  | metered => exact ⟨rfl, rfl, rfl, fun _ => rfl⟩
  | named => exact ⟨rfl, rfl, rfl, fun _ => rfl⟩

/-- Nobody is told before an event is taken in. -/
theorem listeners_take {a b : Accounting α ν} {event : Event α} {changed : Bool}
    (h : (take event).run a = (.ok changed, b)) : b.listeners = a.listeners := by
  cases changed with
  | true => exact (take_true h).2.2.1
  | false => rcases take_false h with rfl | ⟨id, -, rfl⟩ | ⟨settings, -, -, rfl⟩ <;> rfl

/-- The accounting as the recompute after an event finds it. -/
def noted (a : Accounting α ν) (event : Event α) : Accounting α ν :=
  (if event.concernsSelections then a.followSelections else a).tell (.event event)

theorem noted_watch (a : Accounting α ν) (event : Event α) :
    (a.noted event).watch = a.watch := by
  simp only [noted]
  split <;> rfl

variable [Notifier ν]

/-- A refused event leaves everything as it was, and nobody hears of it. -/
theorem dispatch_error {a b : Accounting α ν} {event : Event α} {e : Error α}
    (h : (take event).run a = (.error e, b)) : (dispatch event).run a = (.error e, a) := by
  obtain rfl := take_error h
  unfold dispatch
  rw [Action.run_bind, h]

theorem dispatch_false {a b : Accounting α ν} {event : Event α}
    (h : (take event).run a = (.ok false, b)) :
    (dispatch event).run a = (.ok none, b.tell (.event event)) := by
  unfold dispatch
  rw [Action.run_bind, h]
  rfl

theorem dispatch_true {a b : Accounting α ν} {event : Event α}
    (h : (take event).run a = (.ok true, b)) :
    (dispatch event).run a = (.ok (some (b.noted event).recompute.1),
      (b.noted event).recompute.2.tell (.recompute (b.noted event).recompute.1)) := by
  unfold dispatch noted
  rw [Action.run_bind, h]
  cases event.concernsSelections <;> rfl

/-- All that handling an event can come to: it is refused, or noted and nothing is due, or noted and
followed by a recompute. -/
theorem dispatch_cases (a : Accounting α ν) (event : Event α) :
    (∃ e, (take event).run a = (.error e, a) ∧ (dispatch event).run a = (.error e, a)) ∨
    (∃ b, (take event).run a = (.ok false, b) ∧
      (dispatch event).run a = (.ok none, b.tell (.event event))) ∨
    (∃ b, (take event).run a = (.ok true, b) ∧
      (dispatch event).run a = (.ok (some (b.noted event).recompute.1),
        (b.noted event).recompute.2.tell (.recompute (b.noted event).recompute.1))) := by
  rcases take_cases a event with ⟨e, h⟩ | ⟨changed, b, h⟩
  · exact Or.inl ⟨e, h, dispatch_error h⟩
  · cases changed with
    | false => exact Or.inr (Or.inl ⟨b, h, dispatch_false h⟩)
    | true => exact Or.inr (Or.inr ⟨b, h, dispatch_true h⟩)

end Accounting

/-! ## Calls in a row -/

/-- What a host does with an accounting. -/
inductive Call (α : Type) where
  | subscribe (l : Listener α)
  | dispatch (event : Event α)
  | startPrint
  | feedLine (line : String)
  | finishPrint

/-- A call with the accounting that it found. -/
structure Turn (α ν : Type) where
  before : Accounting α ν
  call : Call α

namespace Accounting

variable [Scalar α] [Notifier ν]

/-- The accounting after a call, whatever the call returns. -/
def call (a : Accounting α ν) : Call α → Accounting α ν
  | .subscribe l => a.subscribe l
  | .dispatch event => ((Accounting.dispatch event).run a).2
  | .startPrint => a.startPrint
  | .feedLine line => (a.feedLine line).2
  | .finishPrint => a.finishPrint.2

def after (a : Accounting α ν) (calls : List (Call α)) : Accounting α ν := calls.foldl call a

/-- What each call of a run keeps, the run keeps. -/
theorem after_induction_of_mem {P : Accounting α ν → Prop} {calls : List (Call α)}
    (hcall : ∀ c ∈ calls, ∀ b, P b → P (b.call c)) {a : Accounting α ν} (ha : P a) :
    P (a.after calls) := by
  induction calls generalizing a with
  | nil => exact ha
  | cons c rest ih =>
    obtain ⟨hfirst, hrest⟩ := List.forall_mem_cons.mp hcall
    exact ih hrest (hfirst a ha)

theorem after_induction {P : Accounting α ν → Prop} (hcall : ∀ b c, P b → P (b.call c))
    {a : Accounting α ν} (ha : P a) (calls : List (Call α)) : P (a.after calls) :=
  after_induction_of_mem (fun c _ b => hcall b c) ha

theorem after_snoc (a : Accounting α ν) (calls : List (Call α)) (c : Call α) :
    a.after (calls ++ [c]) = (a.after calls).call c := by
  unfold after
  rw [List.foldl_append]
  rfl

def turns (a : Accounting α ν) : List (Call α) → List (Turn α ν)
  | [] => []
  | c :: calls => { before := a, call := c } :: (a.call c).turns calls

theorem turns_snoc (a : Accounting α ν) (calls : List (Call α)) (c : Call α) :
    a.turns (calls ++ [c]) = a.turns calls ++ [{ before := a.after calls, call := c }] := by
  induction calls generalizing a with
  | nil => rfl
  | cons first rest ih => exact congrArg (Turn.mk a first :: ·) (ih (a.call first))

end Accounting

namespace Turn

variable [Scalar α] [Notifier ν]

def after (t : Turn α ν) : Accounting α ν := t.before.call t.call

/-- What the recompute found that the call led to, if it led to one. -/
def outcome? (t : Turn α ν) : Option (Outcome α) :=
  match t.call with
  | .dispatch event =>
    match ((Accounting.dispatch event).run t.before).1 with
    | .ok outcome => outcome
    | .error _ => none
  | _ => none

/-- All that a call can do to the watch: a notice closed, other settings at most, or a recompute of
the registry and the job that it leaves. -/
inductive Effect (t : Turn α ν) : Prop where
  | closed (id : Nat) (hcall : t.call = .dispatch (.noticeClosed id)) (hout : t.outcome? = none)
      (hwatch : t.after.watch = t.before.watch.noticeClosed id)
  | quiet (settings : Settings α) (hcall : ∀ id, t.call ≠ .dispatch (.noticeClosed id))
      (hout : t.outcome? = none) (hwatch : t.after.watch = { t.before.watch with settings })
  | recomputed (hcall : ∀ id, t.call ≠ .dispatch (.noticeClosed id))
      (hout : t.outcome? = some (t.before.watch.recompute t.after.registry t.after.job).1)
      (hwatch : t.after.watch = (t.before.watch.recompute t.after.registry t.after.job).2)

theorem effect_dispatch (a : Accounting α ν) {event : Event α}
    (hevent : ∀ id, event ≠ .noticeClosed id) : (Turn.mk a (.dispatch event)).Effect := by
  have hcall : ∀ id, Call.dispatch event ≠ .dispatch (.noticeClosed id) := fun id h =>
    hevent id (Call.dispatch.inj h)
  rcases Accounting.dispatch_cases a event with ⟨e, -, hd⟩ | ⟨b, hb, hd⟩ | ⟨b, hb, hd⟩
  · have hafter : (Turn.mk a (.dispatch event)).after = a := congrArg Prod.snd hd
    exact .quiet a.settings hcall (by simp [outcome?, hd]) (by rw [hafter]; rfl)
  · have hafter : (Turn.mk a (.dispatch event)).after = b.tell (.event event) :=
      congrArg Prod.snd hd
    rcases Accounting.take_false hb with rfl | ⟨id, rfl, -⟩ | ⟨settings, -, -, rfl⟩
    · exact .quiet b.settings hcall (by simp [outcome?, hd]) (by rw [hafter]; rfl)
    · exact absurd rfl (hevent id)
    · exact .quiet settings hcall (by simp [outcome?, hd]) (by rw [hafter]; rfl)
  · have hafter : (Turn.mk a (.dispatch event)).after =
        (b.noted event).recompute.2.tell (.recompute (b.noted event).recompute.1) :=
      congrArg Prod.snd hd
    have hwatch : a.watch = (b.noted event).watch := by
      rw [Accounting.noted_watch, (Accounting.take_true hb).1]
    refine .recomputed hcall ?_ ?_
    · rw [hafter, hwatch]
      simp only [outcome?, hd]
      rfl
    · rw [hafter, hwatch]
      rfl

theorem effect (t : Turn α ν) : t.Effect := by
  obtain ⟨a, c⟩ := t
  cases c with
  | subscribe l => exact .quiet a.settings (by simp) rfl rfl
  | dispatch event =>
    cases event with
    | noticeClosed id => exact .closed id rfl rfl rfl
    | _ => exact effect_dispatch a (by simp)
  | startPrint => exact .quiet a.settings (by simp) rfl rfl
  | feedLine line => exact .quiet a.settings (by simp) rfl rfl
  | finishPrint => exact .quiet a.settings (by simp) rfl rfl

end Turn

section

variable [Scalar α] [Notifier ν]

/-- The turns of a run that led to a recompute, in their order. -/
def Accounting.recomputes (a : Accounting α ν) (calls : List (Call α)) : List (Turn α ν) :=
  (a.turns calls).filter fun t => t.outcome?.isSome

namespace Accounting

theorem recomputes_snoc (a : Accounting α ν) (calls : List (Call α)) (c : Call α) :
    a.recomputes (calls ++ [c]) =
      a.recomputes calls ++ [Turn.mk (a.after calls) c].filter fun t => t.outcome?.isSome := by
  unfold recomputes
  rw [turns_snoc, List.filter_append]

variable {a : Accounting α ν} {calls : List (Call α)} {c : Call α}

theorem recomputes_snoc_of_outcome {o : Outcome α}
    (h : (Turn.mk (a.after calls) c).outcome? = some o) :
    a.recomputes (calls ++ [c]) = a.recomputes calls ++ [Turn.mk (a.after calls) c] := by
  rw [recomputes_snoc, List.filter_cons_of_pos, List.filter_nil]
  rw [h]
  rfl

theorem recomputes_snoc_of_no_outcome (h : (Turn.mk (a.after calls) c).outcome? = none) :
    a.recomputes (calls ++ [c]) = a.recomputes calls := by
  rw [recomputes_snoc, List.filter_cons_of_neg, List.filter_nil, List.append_nil]
  rw [h]
  exact Bool.false_ne_true

end Accounting

end

end Filament
