import Filament.Proofs.StoreIds

/-!
The messages of the store.

A call on the store either fails and leaves all as it was, or succeeds and leaves behind the
messages that go with it: one for a change to a table, none for anything else (`Action.Announces`).
What is taken out of the outbox in a run, and what waits there at the end, is therefore all that was
announced, in order and nothing twice (`Store.messages_delivered_once`).
-/

namespace Filament

variable {α γ : Type}

/-- The message about a change that was done. -/
def Change.message : Change α → Message
  | .addProfile _ => .dataChanged "profiles" "add"
  | .updateProfile _ _ => .dataChanged "profiles" "update"
  | .deleteProfile _ => .dataChanged "profiles" "delete"
  | .addSpool _ => .dataChanged "spools" "add"
  | .updateSpool _ _ => .dataChanged "spools" "update"
  | .deleteSpool _ => .dataChanged "spools" "delete"

/-! ## Calls -/

/-- The operation fails without a trace, or it succeeds and puts the messages into the outbox. -/
def Action.Announces (x : Action (Store α) (Error α) γ) (messages : List Message) : Prop :=
  ∀ s, (∃ e, x.run s = (.error e, s)) ∨
    ∃ a t, x.run s = (.ok a, t) ∧ t.outbox = s.outbox ++ messages

/-- An operation that only reads announces nothing. -/
theorem Action.announces_of_reads {x : Action (Store α) (Error α) γ}
    (h : ∀ s, ∃ a, x.run s = (.ok a, s)) : x.Announces [] := by
  intro s
  obtain ⟨a, hrun⟩ := h s
  exact Or.inr ⟨a, s, hrun, (List.append_nil _).symm⟩

theorem Action.Announces.map {δ : Type} {x : Action (Store α) (Error α) γ} {messages : List Message}
    (h : x.Announces messages) (f : γ → δ) : (f <$> x).Announces messages := by
  intro s
  rw [run_map]
  rcases h s with ⟨e, hrun⟩ | ⟨a, t, hrun, houtbox⟩
  · rw [hrun]
    exact Or.inl ⟨e, rfl⟩
  · rw [hrun]
    exact Or.inr ⟨f a, t, rfl, houtbox⟩

namespace Store

theorem announces_deleteProfile (id : Nat) :
    (deleteProfile id : Action (Store α) _ _).Announces [.dataChanged "profiles" "delete"] := by
  intro s
  simp only [deleteProfile, Action.run_bind, Action.run_get]
  by_cases hused : (s.spools.values.any fun spool => spool.profile.id == some id) = true
  · simp only [hused, if_true]
    exact Or.inl ⟨_, rfl⟩
  · simp only [hused]
    exact Or.inr ⟨_, _, rfl, rfl⟩

theorem announces_deleteSpool (id : Nat) :
    (deleteSpool id : Action (Store α) _ _).Announces [.dataChanged "spools" "delete"] :=
  fun _ => Or.inr ⟨_, _, rfl, rfl⟩

theorem announces_updateSelection (tool : Nat) (id : Option Nat) :
    (updateSelection tool id : Action (Store α) _ _).Announces [] := by
  intro s
  by_cases hknown : ∀ i, id = some i → s.spools.contains i = true
  · exact Or.inr ⟨_, _, run_updateSelection hknown tool, (List.append_nil _).symm⟩
  · obtain ⟨i, hi⟩ := not_forall.mp hknown
    obtain ⟨rfl, hmissing⟩ := Classical.not_imp.mp hi
    exact Or.inl ⟨_, run_updateSelection_error (Bool.eq_false_iff.mpr hmissing) tool⟩

section

variable [Scalar α]

theorem announces_addProfile (p : Profile α) :
    (addProfile p).Announces [.dataChanged "profiles" "add"] := by
  intro s
  cases haccept : p.accept with
  | error e => exact Or.inl ⟨e, run_addProfile_error haccept s⟩
  | ok u =>
    rw [run_addProfile haccept]
    cases hid : s.allocate? with
    | none => exact Or.inl ⟨_, rfl⟩
    | some given =>
      obtain ⟨id, t⟩ := given
      obtain rfl := allocate?_eq hid
      exact Or.inr ⟨_, _, rfl, rfl⟩

theorem announces_updateProfile (id : Nat) (p : Profile α) :
    (updateProfile id p).Announces [.dataChanged "profiles" "update"] := by
  intro s
  simp only [updateProfile, Action.run_bind, Action.run_liftExcept]
  cases p.accept with
  | error e => exact Or.inl ⟨e, rfl⟩
  | ok u =>
    simp only [Action.run_get]
    by_cases hstored : s.profiles.contains id = true
    · simp only [hstored, Bool.not_true, Bool.false_eq_true, if_false]
      exact Or.inr ⟨_, _, rfl, rfl⟩
    · simp only [hstored, Bool.not_false, if_true]
      exact Or.inl ⟨_, rfl⟩

theorem announces_addSpool (spool : Spool α) :
    (addSpool spool).Announces [.dataChanged "spools" "add"] := by
  intro s
  rcases s.addSpool_cases spool with hrefused | ⟨id, -, -, hrun⟩
  · exact Or.inl hrefused
  · exact Or.inr ⟨_, _, hrun, rfl⟩

theorem announces_updateSpool (id : Nat) (spool : Spool α) :
    (updateSpool id spool).Announces [.dataChanged "spools" "update"] := by
  intro s
  rcases s.updateSpool_cases id spool with hrefused | ⟨-, -, hrun⟩
  · exact Or.inl hrefused
  · exact Or.inr ⟨_, _, hrun, rfl⟩

/-- What is asked of the store, whatever it returns. Taking the messages out cannot fail. -/
def Operation.ask : Operation α → Action (Store α) (Error α) Unit
  | .change (.addProfile p) => (fun _ => ()) <$> Backend.addProfile p
  | .change (.updateProfile id p) => (fun _ => ()) <$> Backend.updateProfile id p
  | .change (.deleteProfile id) => Backend.deleteProfile id
  | .change (.addSpool spool) => (fun _ => ()) <$> Backend.addSpool spool
  | .change (.updateSpool id spool) => (fun _ => ()) <$> Backend.updateSpool id spool
  | .change (.deleteSpool id) => Backend.deleteSpool id
  | .select tool id => (fun _ => ()) <$> Backend.updateSelection tool id
  | .listProfiles force => (fun _ => ()) <$> Backend.listProfiles force
  | .listSpools force => (fun _ => ()) <$> Backend.listSpools force
  | .listSelections => (fun _ => ()) <$> Backend.listSelections
  | .drain => modify fun s => s.drain.2

/-- The messages that go with an operation. -/
def Operation.messages : Operation α → List Message
  | .change c => [c.message]
  | _ => []

theorem run_ask_snd (s : Store α) (op : Operation α) : (op.ask.run s).2 = s.operate op := by
  cases op with
  | change c => cases c <;> simp only [Operation.ask, Action.run_map] <;> rfl
  | select | listProfiles | listSpools | listSelections =>
    simp only [Operation.ask, Action.run_map]
    rfl
  | drain => rfl

theorem announces_ask {op : Operation α} (h : op ≠ .drain) : op.ask.Announces op.messages := by
  cases op with
  | change c =>
    cases c with
    | addProfile p => exact (announces_addProfile p).map _
    | updateProfile id p => exact (announces_updateProfile id p).map _
    | deleteProfile id => exact announces_deleteProfile id
    | addSpool spool => exact (announces_addSpool spool).map _
    | updateSpool id spool => exact (announces_updateSpool id spool).map _
    | deleteSpool id => exact announces_deleteSpool id
  | select tool id => exact (announces_updateSelection tool id).map _
  | listProfiles | listSpools | listSelections =>
    exact (Action.announces_of_reads fun s => ⟨_, rfl⟩).map _
  | drain => exact absurd rfl h

/-! ## Runs -/

/-- The messages that the operations of a run announce, those that fail apart. -/
def announced (s : Store α) : List (Operation α) → List Message
  | [] => []
  | op :: rest =>
    (match (op.ask.run s).1 with
      | .ok _ => op.messages
      | .error _ => []) ++ (s.operate op).announced rest

/-- What each drain of a run returns. -/
def drained (s : Store α) : List (Operation α) → List (List Message)
  | [] => []
  | .drain :: rest => s.drain.1 :: s.drain.2.drained rest
  | op :: rest => (s.operate op).drained rest

theorem outbox_operate (s : Store α) {op : Operation α} (h : op ≠ .drain) :
    (s.operate op).outbox = s.outbox ++
      match (op.ask.run s).1 with
      | .ok _ => op.messages
      | .error _ => [] := by
  rw [← run_ask_snd]
  rcases announces_ask h s with ⟨e, hrun⟩ | ⟨a, t, hrun, houtbox⟩
  · rw [hrun]
    exact (List.append_nil _).symm
  · rw [hrun]
    exact houtbox

/-- What is drained and what still waits is what waited at first and what was announced since. -/
theorem drained_append_outbox (s : Store α) (ops : List (Operation α)) :
    (s.drained ops).flatten ++ (s.after ops).outbox = s.outbox ++ s.announced ops := by
  induction ops generalizing s with
  | nil => exact (List.append_nil _).symm
  | cons op rest ih =>
    by_cases hdrain : op = .drain
    · subst hdrain
      have hrest : (s.drain.2.drained rest).flatten ++ (s.drain.2.after rest).outbox =
          s.drain.2.announced rest := ih s.drain.2
      show (s.outbox ++ (s.drain.2.drained rest).flatten) ++ (s.drain.2.after rest).outbox =
        s.outbox ++ s.drain.2.announced rest
      rw [List.append_assoc, hrest]
    · have hdrained : s.drained (op :: rest) = (s.operate op).drained rest := by
        cases op with
        | drain => exact absurd rfl hdrain
        | _ => rfl
      rw [hdrained, announced, ← List.append_assoc, ← outbox_operate s hdrain]
      exact ih (s.operate op)

/-- A drain at the end of a run takes all that waits then. -/
theorem drained_snoc (s : Store α) (ops : List (Operation α)) :
    s.drained (ops ++ [.drain]) = s.drained ops ++ [(s.after ops).outbox] := by
  induction ops generalizing s with
  | nil => rfl
  | cons op rest ih =>
    cases op with
    | drain => exact congrArg (s.drain.1 :: ·) (ih s.drain.2)
    | _ => exact ih _

/-- A call that fails leaves the store as it was. One that succeeds appends one message to the
outbox if it is a change to a table, about that table and that change, and none otherwise. In a run
of calls and drains, whatever the store was at first, the drains return the messages in the order in
which they were appended, each once, and none is left behind by a drain. -/
theorem messages_delivered_once (s : Store α) :
    (∀ (op : Operation α) e, (op.ask.run s).1 = .error e → (op.ask.run s).2 = s) ∧
    (∀ op : Operation α, op ≠ .drain → (op.ask.run s).1 = .ok () →
      (op.ask.run s).2.outbox = s.outbox ++ op.messages) ∧
    (∀ ops, (s.drained ops).flatten ++ (s.after ops).outbox = s.outbox ++ s.announced ops) ∧
    ∀ ops, (s.drained (ops ++ [.drain])).flatten = s.outbox ++ s.announced ops := by
  refine ⟨fun op e herror => ?_, fun op hdrain hok => ?_, s.drained_append_outbox, fun ops => ?_⟩
  · by_cases hdrain : op = .drain
    · subst hdrain
      cases herror
    · rcases announces_ask hdrain s with ⟨e', hrun⟩ | ⟨a, t, hrun, -⟩
      · rw [hrun]
      · rw [hrun] at herror
        cases herror
  · rw [run_ask_snd, outbox_operate s hdrain, hok]
  · rw [drained_snoc, List.flatten_append, List.flatten_singleton]
    exact s.drained_append_outbox ops

end
end Store
end Filament
