import Filament.Proofs.Check
import Filament.Store

/-!
Sending what a print used.

The spools go to the store one after the other, and a refusal stops none of those that follow. All
that sending one spool can come to is said once (`Usage.sent`); that replacing a spool keeps the ids
of the store makes the answer to each entry the same as if it had been sent alone. So the store ends
with the last spool that it took under each id (`Usage.Delivered`), and the caller hears of the
first refusal, if there was one (`Usage.sent_past_failures`).
-/

namespace Filament

variable {α : Type}

/-! ## One spool -/

namespace Store

/-- The store after a spool was replaced. -/
def replaced (s : Store α) (id : Nat) (spool : Spool α) : Store α :=
  { s with spools := s.spools.insert id spool }.announce "spools" "update"

theorem getElem?_replaced (s : Store α) (id other : Nat) (spool : Spool α) :
    (s.replaced id spool).spools[other]? = if id = other then some spool else s.spools[other]? := by
  show (s.spools.insert id spool)[other]? = _
  rw [Std.TreeMap.getElem?_insert]
  simp only [Nat.compare_eq_eq]

theorem contains_replaced {s : Store α} {id : Nat} (h : s.spools.contains id = true)
    (spool : Spool α) (other : Nat) :
    (s.replaced id spool).spools.contains other = s.spools.contains other := by
  show (s.spools.insert id spool).contains other = _
  rw [Std.TreeMap.contains_insert]
  by_cases hsame : id = other
  · subst hsame
    rw [h, Bool.or_true]
  · rw [beq_eq_false_iff_ne.mpr (mt Nat.compare_eq_eq.mp hsame), Bool.false_or]

variable [Scalar α]

theorem run_updateSpool {s : Store α} {id : Nat} {spool : Spool α}
    (haccept : spool.accept = .ok ()) (hstored : s.spools.contains id = true) :
    (updateSpool id spool).run s =
      (.ok { spool with id := some id }, s.replaced id { spool with id := some id }) := by
  simp [updateSpool, Action.run_bind, Action.run_map, haccept, hstored, replaced, Except.map]

theorem run_updateSpool_invalid {spool : Spool α} {cause : Invalid α}
    (hcheck : spool.check = .error cause) (id : Nat) (s : Store α) :
    (updateSpool id spool).run s = (.error (.invalidSpool cause), s) := by
  have haccept : spool.accept = .error (.invalidSpool cause) := by
    rw [Spool.accept, hcheck]
    rfl
  simp [updateSpool, Action.run_bind, haccept]

theorem run_updateSpool_unknown {s : Store α} {id : Nat} {spool : Spool α}
    (haccept : spool.accept = .ok ()) (hmissing : s.spools.contains id = false) :
    (updateSpool id spool).run s = (.error (.backend (.noSpool id)), s) := by
  simp [updateSpool, Action.run_bind, haccept, hmissing]

/-- A spool that is sent is stored if it is valid and takes the place of one with its id. -/
def takes (s : Store α) (u : Usage α) : Bool :=
  u.spool.check.isOk && u.spool.id.any s.spools.contains

/-- Why a spool that is sent is refused. One without an id is not sent at all. -/
def refusal? (s : Store α) (u : Usage α) : Option (Error α) :=
  u.spool.id.bind fun id =>
    match u.spool.check with
    | .error cause => some (.invalidSpool cause)
    | .ok _ => if s.spools.contains id then none else some (.backend (.noSpool id))

theorem takes_replaced {s : Store α} {id : Nat} (h : s.spools.contains id = true)
    (spool : Spool α) : (s.replaced id spool).takes = s.takes := by
  funext u
  unfold takes
  rw [funext (contains_replaced h spool)]

theorem refusal?_replaced {s : Store α} {id : Nat} (h : s.spools.contains id = true)
    (spool : Spool α) : (s.replaced id spool).refusal? = s.refusal? := by
  funext u
  unfold refusal?
  simp only [contains_replaced h spool]

end Store

namespace Usage

section

variable [Scalar α]

/-- The store takes the spool. -/
def Sendable (u : Usage α) (s : Store α) : Prop :=
  u.spool.accept = .ok () ∧ ∃ id, u.spool.id = some id ∧ s.spools.contains id = true

theorem takes_of_sendable {u : Usage α} {s : Store α} (h : u.Sendable s) :
    s.takes u = true ∧ s.refusal? u = none := by
  obtain ⟨haccept, id, hid, hstored⟩ := h
  have hcheck : u.spool.check = .ok () := Spool.accept_eq_ok_iff.mp haccept
  constructor
  · rw [Store.takes, hcheck, hid, Option.any_some, hstored]
    rfl
  · rw [Store.refusal?, hid, Option.bind_some, hcheck]
    exact if_pos hstored

theorem run_send_none {u : Usage α} (hid : u.spool.id = none) (s : Store α) :
    StateT.run (m := Id) u.send s = (none, s) := by
  simp only [send, hid]
  rfl

theorem run_send_some {u : Usage α} {id : Nat} (hid : u.spool.id = some id) (s : Store α) :
    StateT.run (m := Id) u.send s =
      (some ((Store.updateSpool id u.spool).run s).1,
      ((Store.updateSpool id u.spool).run s).2) := by
  have hrun : StateT.run (m := Id) (Action.run (Store.updateSpool id u.spool)) s =
      (Store.updateSpool id u.spool).run s := rfl
  simp only [send, hid, Backend.updateSpool, StateT.run_bind, hrun]
  generalize (Store.updateSpool id u.spool).run s = result
  rfl

/-- All that sending a spool can come to. -/
inductive Sent (s : Store α) (u : Usage α) : Prop where
  | unsent (hid : u.spool.id = none) (htakes : s.takes u = false) (hrefusal : s.refusal? u = none)
      (hrun : StateT.run (m := Id) u.send s = (none, s))
  | refused (e : Error α) (htakes : s.takes u = false) (hrefusal : s.refusal? u = some e)
      (hrun : StateT.run (m := Id) u.send s = (some (.error e), s))
  | stored (id : Nat) (hid : u.spool.id = some id) (hstored : s.spools.contains id = true)
      (htakes : s.takes u = true) (hrefusal : s.refusal? u = none)
      (hrun : StateT.run (m := Id) u.send s = (some (.ok u.spool), s.replaced id u.spool))

theorem sent (s : Store α) (u : Usage α) : Sent s u := by
  cases hid : u.spool.id with
  | none =>
    refine .unsent hid ?_ ?_ (run_send_none hid s)
    · rw [Store.takes, hid]
      exact Bool.and_false _
    · rw [Store.refusal?, hid]
      rfl
  | some id =>
    have hrun := run_send_some hid s
    cases hcheck : u.spool.check with
    | error cause =>
      rw [Store.run_updateSpool_invalid hcheck] at hrun
      refine .refused (.invalidSpool cause) ?_ ?_ hrun
      · rw [Store.takes, hcheck]
        rfl
      · rw [Store.refusal?, hid, hcheck]
        rfl
    | ok =>
      have haccept : u.spool.accept = .ok () := Spool.accept_eq_ok_iff.mpr hcheck
      cases hstored : s.spools.contains id with
      | false =>
        rw [Store.run_updateSpool_unknown haccept hstored] at hrun
        refine .refused (.backend (.noSpool id)) ?_ ?_ hrun
        · rw [Store.takes, hcheck, hid, Option.any_some, hstored]
          rfl
        · rw [Store.refusal?, hid, Option.bind_some, hcheck]
          exact if_neg (Bool.eq_false_iff.mp hstored)
      | true =>
        obtain ⟨htakes, hrefusal⟩ := takes_of_sendable ⟨haccept, id, hid, hstored⟩
        have hsame : { u.spool with id := some id } = u.spool := by rw [← hid]
        rw [Store.run_updateSpool haccept hstored, hsame] at hrun
        exact .stored id hid hstored htakes hrefusal hrun

end

/-! ## All spools -/

/-- The spool that was sent last under an id. -/
def lastSent (usage : List (Usage α)) (id : Nat) : Option (Spool α) :=
  ((usage.map spool).filter fun s => s.id == some id).getLast?

theorem lastSent_cons (u : Usage α) (rest : List (Usage α)) (id : Nat) :
    lastSent (u :: rest) id =
      (lastSent rest id).or (if u.spool.id = some id then some u.spool else none) := by
  by_cases hid : u.spool.id = some id
  · simp [lastSent, hid, List.getLast?_cons]
  · simp [lastSent, hid]

theorem lastSent_eq_none {usage : List (Usage α)} {id : Nat}
    (h : ∀ u ∈ usage, u.spool.id ≠ some id) : lastSent usage id = none := by
  induction usage with
  | nil => rfl
  | cons u rest ih =>
    obtain ⟨hfirst, hrest⟩ := List.forall_mem_cons.mp h
    rw [lastSent_cons, ih hrest, if_neg hfirst]
    rfl

/-- Of entries with different ids each is the last one under its id. -/
theorem lastSent_eq_some {usage : List (Usage α)}
    (hids : (usage.filterMap fun u => u.spool.id).Nodup)
    {u : Usage α} (hu : u ∈ usage) {id : Nat} (hid : u.spool.id = some id) :
    lastSent usage id = some u.spool := by
  induction usage with
  | nil => cases hu
  | cons v rest ih =>
    rw [lastSent_cons]
    rcases List.mem_cons.mp hu with rfl | hrest
    · have hcons : (u :: rest).filterMap (fun u => u.spool.id) =
          id :: rest.filterMap fun u => u.spool.id := List.filterMap_cons_some hid
      rw [hcons, List.nodup_cons] at hids
      have hothers : lastSent rest id = none := by
        refine lastSent_eq_none fun w hw hsame => hids.1 ?_
        exact List.mem_filterMap.mpr ⟨w, hw, hsame⟩
      rw [hothers, if_pos hid]
      rfl
    · have hnodup : (rest.filterMap fun u => u.spool.id).Nodup :=
        hids.sublist ((List.sublist_cons_self v rest).filterMap _)
      rw [ih hnodup hrest]
      rfl

theorem mapM_send_cons {β : Type} [Backend β α] (u : Usage α) (rest : List (Usage α)) (b : β) :
    StateT.run (m := Id) ((u :: rest).mapM send) b =
      ((StateT.run (m := Id) u.send b).1 ::
          (StateT.run (m := Id) (rest.mapM send) (StateT.run (m := Id) u.send b).2).1,
        (StateT.run (m := Id) (rest.mapM send) (StateT.run (m := Id) u.send b).2).2) := by
  rw [List.mapM_cons]
  rfl

/-- The first failure among the answers, or else all that was stored. -/
def collect (answers : List (Option (Except (Error α) (Spool α)))) :
    Except (Error α) (List (Spool α)) := (answers.filterMap id).mapM id

theorem collect_cons_ok (x : Spool α) (answers : List (Option (Except (Error α) (Spool α)))) :
    collect (some (.ok x) :: answers) = (collect answers).map (x :: ·) := by
  show List.mapM id (.ok x :: answers.filterMap id) = _
  rw [List.mapM_cons]
  rfl

section

variable [Scalar α] {s : Store α} {u : Usage α} {rest : List (Usage α)}

theorem run_sendAll_eq (s : Store α) (usage : List (Usage α)) :
    (sendAll usage).run s =
      (collect (StateT.run (m := Id) (usage.mapM send) s).1,
        (StateT.run (m := Id) (usage.mapM send) s).2) := rfl

/-- The first refusal, or else all spools that have an id. -/
def verdict (s : Store α) (usage : List (Usage α)) : Except (Error α) (List (Spool α)) :=
  match usage.findSome? s.refusal? with
  | some e => .error e
  | none => .ok ((usage.map spool).filter fun spool => spool.id.isSome)

theorem verdict_cons_of_unsent (hid : u.spool.id = none) (hrefusal : s.refusal? u = none) :
    verdict s (u :: rest) = verdict s rest := by
  simp [verdict, hrefusal, hid]

theorem verdict_cons_of_refused {e : Error α} (hrefusal : s.refusal? u = some e) :
    verdict s (u :: rest) = .error e := by
  simp [verdict, hrefusal]

theorem verdict_cons_of_stored {id : Nat} (hid : u.spool.id = some id)
    (hrefusal : s.refusal? u = none) :
    verdict s (u :: rest) = (verdict s rest).map (u.spool :: ·) := by
  unfold verdict
  rw [List.findSome?_cons, hrefusal]
  cases rest.findSome? s.refusal? with
  | some e => rfl
  | none => simp [hid, Except.map]

/-- The store after usage was sent: it holds the last spool that it took under each id, and a
message about every spool that it took. -/
structure Delivered (s : Store α) (usage : List (Usage α)) (after : Store α) : Prop where
  spools : ∀ id, after.spools[id]? = (lastSent (usage.filter s.takes) id).or s.spools[id]?
  rest : after = { s with
    spools := after.spools
    outbox := s.outbox ++ (usage.filter s.takes).map fun _ => .dataChanged "spools" "update" }

theorem delivered_cons_of_not_takes (htakes : s.takes u = false) {after : Store α}
    (h : Delivered s rest after) : Delivered s (u :: rest) after := by
  have hskip : (u :: rest).filter s.takes = rest.filter s.takes :=
    List.filter_cons_of_neg (Bool.eq_false_iff.mp htakes)
  constructor
  · rw [hskip]
    exact h.spools
  · rw [hskip]
    exact h.rest

theorem delivered_cons_of_stored {id : Nat} (hid : u.spool.id = some id)
    (hstored : s.spools.contains id = true) (htakes : s.takes u = true) {after : Store α}
    (h : Delivered (s.replaced id u.spool) rest after) : Delivered s (u :: rest) after := by
  obtain ⟨hspools, hrest⟩ := h
  rw [Store.takes_replaced hstored] at hspools hrest
  constructor
  · intro other
    rw [List.filter_cons_of_pos htakes, hspools, lastSent_cons, Store.getElem?_replaced, hid,
      Option.or_assoc]
    by_cases hsame : id = other
    · simp [hsame]
    · simp [hsame]
  · rw [List.filter_cons_of_pos htakes, hrest]
    simp [Store.replaced, Store.announce]

theorem run_mapM_send (s : Store α) (usage : List (Usage α)) :
    ∃ answers after, StateT.run (m := Id) (usage.mapM send) s = (answers, after) ∧
      collect answers = verdict s usage ∧ Delivered s usage after := by
  induction usage generalizing s with
  | nil => exact ⟨[], s, rfl, rfl, fun _ => rfl, by simp⟩
  | cons u rest ih =>
    rw [mapM_send_cons]
    cases sent s u with
    | unsent hid htakes hrefusal hrun =>
      obtain ⟨answers, after, hrest, hverdict, hdelivered⟩ := ih s
      refine ⟨none :: answers, after, by rw [hrun, hrest], ?_,
        delivered_cons_of_not_takes htakes hdelivered⟩
      rw [verdict_cons_of_unsent hid hrefusal]
      exact hverdict
    | refused e htakes hrefusal hrun =>
      obtain ⟨answers, after, hrest, -, hdelivered⟩ := ih s
      refine ⟨some (.error e) :: answers, after, by rw [hrun, hrest], ?_,
        delivered_cons_of_not_takes htakes hdelivered⟩
      rw [verdict_cons_of_refused hrefusal]
      rfl
    | stored id hid hstored htakes hrefusal hrun =>
      -- The rest meets a store with other contents, but with the same ids.
      obtain ⟨answers, after, hrest, hverdict, hdelivered⟩ := ih (s.replaced id u.spool)
      refine ⟨some (.ok u.spool) :: answers, after, by rw [hrun, hrest], ?_,
        delivered_cons_of_stored hid hstored htakes hdelivered⟩
      rw [collect_cons_ok, verdict_cons_of_stored hid hrefusal, hverdict, verdict, verdict,
        Store.refusal?_replaced hstored]

theorem delivered_sendAll (s : Store α) (usage : List (Usage α)) :
    ∃ after, (sendAll usage).run s = (verdict s usage, after) ∧ Delivered s usage after := by
  obtain ⟨answers, after, hrun, hverdict, hdelivered⟩ := run_mapM_send s usage
  refine ⟨after, ?_, hdelivered⟩
  rw [run_sendAll_eq, hrun, hverdict]

/-- If the store takes all spools, each id holds the spool sent last under it, if one was. -/
theorem run_sendAll {usage : List (Usage α)} {s : Store α} (h : ∀ u ∈ usage, u.Sendable s) :
    ∃ after, (sendAll usage).run s = (.ok (usage.map spool), after) ∧
      ∀ id, after.spools[id]? = (lastSent usage id).or s.spools[id]? := by
  obtain ⟨after, hrun, hspools, -⟩ := delivered_sendAll s usage
  have hall : usage.filter s.takes = usage :=
    List.filter_eq_self.mpr fun u hu => (takes_of_sendable (h u hu)).1
  have hnone : usage.findSome? s.refusal? = none :=
    List.findSome?_eq_none_iff.mpr fun u hu => (takes_of_sendable (h u hu)).2
  have hids : (usage.map spool).filter (fun spool => spool.id.isSome) = usage.map spool := by
    refine List.filter_eq_self.mpr fun spool hspool => ?_
    obtain ⟨u, hu, rfl⟩ := List.mem_map.mp hspool
    obtain ⟨-, id, hid, -⟩ := h u hu
    rw [hid]
    rfl
  have hverdict : verdict s usage = .ok (usage.map spool) := by
    unfold verdict
    rw [hnone]
    exact congrArg Except.ok hids
  rw [hall] at hspools
  exact ⟨after, by rw [hrun, hverdict], hspools⟩

theorem lastSent_of_not_takes {usage : List (Usage α)} {id : Nat}
    (h : ∀ u ∈ usage, s.takes u = true → u.spool.id ≠ some id) :
    lastSent (usage.filter s.takes) id = none := by
  refine lastSent_eq_none fun u hu => ?_
  obtain ⟨husage, htakes⟩ := List.mem_filter.mp hu
  exact h u husage htakes

theorem lastSent_of_takes {usage : List (Usage α)}
    (hids : (usage.filterMap fun u => u.spool.id).Nodup) (hu : u ∈ usage) {id : Nat}
    (hid : u.spool.id = some id) (htakes : s.takes u = true) :
    lastSent (usage.filter s.takes) id = some u.spool := by
  refine lastSent_eq_some ?_ (List.mem_filter.mpr ⟨hu, htakes⟩) hid
  exact hids.sublist (List.filter_sublist.filterMap _)

/-- Of spools with different ids, or none, each one that is valid and whose id is stored is stored
as it was sent, whatever became of the others. No other spool changes, and nothing else but the
outbox, which has a message for each of those stored. The result is the first refusal, or else all
spools with an id in their order. -/
theorem sent_past_failures (s : Store α) {usage : List (Usage α)}
    (hids : (usage.filterMap fun u => u.spool.id).Nodup) :
    ∃ result after, (sendAll usage).run s = (result, after) ∧
      (∀ u ∈ usage, ∀ id, u.spool.id = some id → s.spools.contains id = true →
        u.spool.check = .ok () → after.spools[id]? = some u.spool) ∧
      (∀ id, (∀ u ∈ usage, s.takes u = true → u.spool.id ≠ some id) →
        after.spools[id]? = s.spools[id]?) ∧
      after.profiles = s.profiles ∧ after.selections = s.selections ∧ after.nextId = s.nextId ∧
      after.outbox =
        s.outbox ++ (usage.filter s.takes).map (fun _ => .dataChanged "spools" "update") ∧
      (∀ e, usage.findSome? s.refusal? = some e → result = .error e) ∧
      (usage.findSome? s.refusal? = none →
        result = .ok ((usage.map spool).filter fun spool => spool.id.isSome)) := by
  obtain ⟨after, hrun, hspools, hrest⟩ := delivered_sendAll s usage
  refine ⟨verdict s usage, after, hrun, ?_, ?_, ?_, ?_, ?_, ?_, ?_, ?_⟩
  · intro u hu id hid hstored hcheck
    obtain ⟨htakes, -⟩ := takes_of_sendable ⟨Spool.accept_eq_ok_iff.mpr hcheck, id, hid, hstored⟩
    rw [hspools, lastSent_of_takes hids hu hid htakes]
    rfl
  · intro id hnone
    rw [hspools, lastSent_of_not_takes hnone]
    rfl
  · rw [hrest]
  · rw [hrest]
  · rw [hrest]
  · rw [hrest]
  · intro e he
    rw [verdict, he]
  · intro hnone
    rw [verdict, hnone]

end

/-! ## A roll behind a failure -/

/-- A roll, to be changed to one of which something is gone. -/
def freshRoll : Spool Float :=
  { (Spool.standard : Spool Float) with
    id := some 1
    name := "Grey"
    profile := { (Profile.standard : Profile Float) with id := some 1 } }

def wornRoll : Spool Float := { freshRoll with used := 250 }

/-- One without an id, one that nobody stores, and the roll. -/
def rollBehindFailure : List (Usage Float) :=
  [{ tool := 0, length := 0, mass := 0, spool := { freshRoll with id := none } },
    { tool := 1, length := 0, mass := 0, spool := { freshRoll with id := some 7 } },
    { tool := 2, length := 0, mass := 250, spool := wornRoll }]

theorem sent_past_failures_roll :
    (rollBehindFailure.filterMap fun u => u.spool.id).Nodup ∧
      ∃ after, (sendAll rollBehindFailure).run (Store.ofSeeds [] [freshRoll]) =
          (.error (.backend (.noSpool 7)), after) ∧
        after.spools[1]? = some wornRoll ∧
        after.outbox = [.dataChanged "spools" "update"] := by
  have hids : (rollBehindFailure.filterMap fun u => u.spool.id).Nodup := by decide
  obtain ⟨result, after, hrun, hstored, -, -, -, -, houtbox, herror, -⟩ :=
    sent_past_failures (Store.ofSeeds [] [freshRoll]) hids
  have hcheck : { freshRoll with id := some 7 }.check = .ok () :=
    eq_ok_of_toBool (by decide +kernel)
  have hmissing : (Store.ofSeeds [] [freshRoll]).spools.contains 7 = false := by decide +kernel
  have hfirst : rollBehindFailure.findSome? (Store.ofSeeds [] [freshRoll]).refusal? =
      some (.backend (.noSpool 7)) := by
    simp only [rollBehindFailure, List.findSome?_cons, Store.refusal?, Option.bind_none,
      Option.bind_some, hcheck, hmissing]
    rfl
  refine ⟨hids, after, ?_, ?_, ?_⟩
  · rw [hrun, herror _ hfirst]
  · exact hstored { tool := 2, length := 0, mass := 250, spool := wornRoll }
      (by simp [rollBehindFailure]) 1 rfl rfl (eq_ok_of_toBool (by decide +kernel))
  · rw [houtbox]
    decide +kernel

end Usage
end Filament
