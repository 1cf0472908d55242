import Mathlib.Data.List.Induction
import Filament.Proofs.Run
import Filament.Proofs.Slots

/-!
The slots of a registry as its calls say.

A registry is resized, spools are put on its tools one by one, or the backend pushes several at
once, in any order. Which spool a tool holds can be read off the calls alone: the one put on it
last, unless the tool was dropped since (`Registry.LatestPut`). A push keeps a slot that has the
content already, so a slot holds that spool up to its content (`Registry.slots_follow_calls`).
`Registry.Follows` says so of the slots, and every single entry keeps it.
-/

namespace Filament
namespace Registry

variable {α : Type}

/-! ## Calls -/

/-- What is asked of a registry. -/
inductive Call (α : Type) where
  | resize (count : Nat)
  | set (tool : Nat) (spool : Option (Spool α))
  | push (selections : List (Selection α))

namespace Call

def count? : Call α → Option Nat
  | .resize count => some count
  | _ => none

/-- The calls that a call counts as: a push is as many as it has selections, in their order. -/
def singly : Call α → List (Call α)
  | .push selections => selections.map fun s => .set s.tool s.spool
  | c => [c]

/-- The call neither puts anything on the tool nor drops it. -/
def Leaves (tool : Nat) : Call α → Prop
  | .resize count => tool < count
  | .set other _ => other ≠ tool
  | .push selections => ∀ s ∈ selections, s.tool ≠ tool

end Call

/-- The tool count after calls on a registry that had `count` tools at first. -/
def countAfter (count : Nat) (calls : List (Call α)) : Nat :=
  (calls.filterMap Call.count?).getLast?.getD count

/-- The spool, or none, was put on the tool last: the printer had the tool then, and no call since
has put anything on it or dropped it. -/
def LatestPut (count : Nat) (calls : List (Call α)) (tool : Nat) (put : Option (Spool α)) : Prop :=
  ∃ before later, calls = before ++ .set tool put :: later ∧ tool < countAfter count before ∧
    ∀ c ∈ later, c.Leaves tool

theorem countAfter_snoc (count : Nat) (calls : List (Call α)) (c : Call α) :
    countAfter count (calls ++ [c]) = c.count?.getD (countAfter count calls) := by
  unfold countAfter
  rw [List.filterMap_append]
  cases hc : c.count? with
  | none => simp [hc]
  | some n => simp [hc]

theorem countAfter_singly (count : Nat) (calls : List (Call α)) :
    countAfter count (calls.flatMap Call.singly) = countAfter count calls := by
  have hsingly : ∀ c : Call α, c.singly.filterMap Call.count? = [c].filterMap Call.count? := by
    intro c
    cases c with
    | push selections =>
      show (selections.map fun s => Call.set s.tool s.spool).filterMap Call.count? = []
      rw [List.filterMap_map, List.filterMap_eq_nil_iff]
      exact fun _ _ => rfl
    | resize n => rfl
    | set tool spool => rfl
  have hall : (calls.flatMap Call.singly).filterMap Call.count? = calls.filterMap Call.count? := by
    induction calls with
    | nil => rfl
    | cons c rest ih =>
      rw [List.flatMap_cons, List.filterMap_append, hsingly, ih, ← List.filterMap_append]
      rfl
  unfold countAfter
  rw [hall]

theorem LatestPut.lt_countAfter {count tool : Nat} {calls : List (Call α)} {put : Option (Spool α)}
    (h : LatestPut count calls tool put) : tool < countAfter count calls := by
  obtain ⟨before, later, rfl, hlt, hleaves⟩ := h
  induction later using List.reverseRecOn with
  | nil =>
    rw [countAfter_snoc]
    exact hlt
  | append_singleton later c ih =>
    rw [List.forall_mem_append] at hleaves
    have hbefore := ih hleaves.1
    have hc : c.Leaves tool := hleaves.2 c List.mem_cons_self
    rw [← List.cons_append, ← List.append_assoc, countAfter_snoc]
    cases c with
    | resize n => exact hc
    | set other spool => exact hbefore
    | push selections => exact hbefore

/-- A place in a list with one more entry is that of the new entry or a place in the rest. -/
theorem split_snoc {β : Type} {xs before later : List β} {x y : β}
    (h : xs ++ [x] = before ++ y :: later) :
    later = [] ∧ xs = before ∧ x = y ∨ ∃ rest, later = rest ++ [x] ∧ xs = before ++ y :: rest := by
  cases later using List.reverseRecOn with
  | nil =>
    obtain ⟨hxs, hlast⟩ := List.append_inj' h rfl
    exact Or.inl ⟨rfl, hxs, List.head_eq_of_cons_eq hlast⟩
  | append_singleton rest last =>
    rw [← List.cons_append, ← List.append_assoc] at h
    obtain ⟨hxs, hlast⟩ := List.append_inj' h rfl
    exact Or.inr ⟨rest, by rw [hlast], hxs⟩

theorem latestPut_snoc_set {count tool : Nat} {calls : List (Call α)}
    (h : tool < countAfter count calls) (put : Option (Spool α)) :
    LatestPut count (calls ++ [.set tool put]) tool put :=
  ⟨calls, [], rfl, h, List.forall_mem_nil _⟩

/-- A call that leaves the tool alone does not count for it. -/
theorem latestPut_snoc_iff {count tool : Nat} {calls : List (Call α)} {c : Call α}
    (hc : c.Leaves tool) (put : Option (Spool α)) :
    LatestPut count (calls ++ [c]) tool put ↔ LatestPut count calls tool put := by
  constructor
  · rintro ⟨before, later, hcalls, hlt, hleaves⟩
    rcases split_snoc hcalls with ⟨-, -, rfl⟩ | ⟨rest, rfl, rfl⟩
    · exact absurd rfl hc
    · exact ⟨before, rest, rfl, hlt, (List.forall_mem_append.mp hleaves).1⟩
  · rintro ⟨before, later, rfl, hlt, hleaves⟩
    refine ⟨before, later ++ [c], by simp, hlt, ?_⟩
    rw [List.forall_mem_append]
    exact ⟨hleaves, List.forall_mem_singleton.mpr hc⟩

/-! ## Slots -/

section

variable {count : Nat} {calls : List (Call α)} {slots : List (Option (Spool α))}

/-- The same, or of the same content. A spool with a quantity that is no number is only the
former. -/
def Holds [BEq α] (slot put : Option (Spool α)) : Prop := slot = put ∨ (slot == put) = true

/-- The slots are as many as the calls ask for, and each holds what was put on its tool last, or
nothing if nothing was. -/
structure Follows [BEq α] (count : Nat) (calls : List (Call α)) (slots : List (Option (Spool α))) :
    Prop where
  length : slots.length = countAfter count calls
  holds : ∀ (tool : Nat) (slot : Option (Spool α)), slots[tool]? = some slot →
    (∃ put, LatestPut count calls tool put ∧ Holds slot put) ∨
      (∀ put, ¬LatestPut count calls tool put) ∧ slot = none

theorem resize_getElem? (r : Registry α) (n tool : Nat) :
    (r.resize n).2.slots[tool]? = if tool < n then some r.slots[tool]?.join else none := by
  unfold resize
  split
  · rename_i hsame
    subst hsame
    show r.slots[tool]? = if tool < r.slots.length then some r.slots[tool]?.join else none
    split
    · rename_i hlt
      rw [List.getElem?_eq_getElem hlt]
      rfl
    · rename_i hle
      exact List.getElem?_eq_none (Nat.not_lt.mp hle)
  · show (r.slots.take n ++ List.replicate (n - r.slots.length) none)[tool]? = _
    rw [List.getElem?_append, List.length_take, List.getElem?_take, List.getElem?_replicate]
    split
    · rename_i hlt
      obtain ⟨hn, hold⟩ := Nat.lt_min.mp hlt
      rw [if_pos hn, if_pos hn, List.getElem?_eq_getElem hold]
      rfl
    · rename_i hle
      rw [Nat.lt_min, not_and] at hle
      by_cases hn : tool < n
      · have hold := Nat.not_lt.mp (hle hn)
        rw [if_pos hn, if_pos (by omega), List.getElem?_eq_none hold]
        rfl
      · rw [if_neg hn, if_neg (by omega)]

variable [BEq α]

theorem follows_blank (count : Nat) : Follows count [] (blank count : Registry α).slots where
  length := List.length_replicate
  holds tool slot hslot := by
    right
    refine ⟨?_, List.eq_of_mem_replicate (List.mem_of_getElem? hslot)⟩
    rintro put ⟨before, later, hcalls, -⟩
    exact absurd hcalls.symm (List.append_ne_nil_of_right_ne_nil _ (List.cons_ne_nil _ _))

/-- A tool that comes back is as empty as one that was never there. -/
theorem follows_resize {r : Registry α} (h : Follows count calls r.slots) (n : Nat) :
    Follows count (calls ++ [.resize n]) (r.resize n).2.slots where
  length := by
    rw [countAfter_snoc]
    exact toolCount_resize r n
  holds tool slot hslot := by
    rw [resize_getElem?] at hslot
    by_cases hn : tool < n
    · rw [if_pos hn, Option.some.injEq] at hslot
      subst hslot
      simp only [latestPut_snoc_iff (c := .resize n) hn]
      cases hbefore : r.slots[tool]? with
      | some slot => exact h.holds tool slot hbefore
      | none =>
        refine Or.inr ⟨fun put hput => ?_, rfl⟩
        have hlt := hput.lt_countAfter
        rw [← h.length] at hlt
        exact absurd (List.getElem?_eq_none_iff.mp hbefore) (Nat.not_le.mpr hlt)
    · rw [if_neg hn] at hslot
      cases hslot

/-- Putting a spool on a tool leaves the other slots alone, and the tool's own, if there is one,
holds it. -/
theorem follows_put (h : Follows count calls slots) {tool : Nat} {put : Option (Spool α)}
    {after : List (Option (Spool α))} (hlength : after.length = slots.length)
    (hother : ∀ other, other ≠ tool → after[other]? = slots[other]?)
    (hown : ∀ slot, after[tool]? = some slot → Holds slot put) :
    Follows count (calls ++ [.set tool put]) after where
  length := by
    rw [hlength, h.length, countAfter_snoc]
    rfl
  holds other slot hslot := by
    by_cases hne : other = tool
    · subst hne
      have hlt : other < countAfter count calls := by
        rw [← h.length, ← hlength]
        exact (List.getElem?_eq_some_iff.mp hslot).1
      exact Or.inl ⟨put, latestPut_snoc_set hlt put, hown slot hslot⟩
    · rw [hother other hne] at hslot
      simp only [latestPut_snoc_iff (c := .set tool put) (Ne.symm hne)]
      exact h.holds other slot hslot

theorem follows_pushOne {state : Bool × List (Option (Spool α))} (h : Follows count calls state.2)
    (s : Selection α) : Follows count (calls ++ [.set s.tool s.spool]) (pushOne state s).2 := by
  refine follows_put h (length_pushOne state s) (fun other hne => ?_) (fun slot hslot => ?_)
  · rw [pushOne_getElem?, if_neg (Ne.symm hne)]
  · rw [pushOne_getElem?, if_pos rfl] at hslot
    obtain ⟨old, -, rfl⟩ := Option.map_eq_some_iff.mp hslot
    rcases overlay_eq_or s.spool old with hput | ⟨hkept, hsame⟩
    · exact Or.inl hput
    · rw [hkept]
      exact Or.inr hsame

theorem follows_pushed {state : Bool × List (Option (Spool α))} (h : Follows count calls state.2)
    (selections : List (Selection α)) :
    Follows count (calls ++ selections.map fun s => .set s.tool s.spool)
      (selections.foldl pushOne state).2 := by
  induction selections generalizing calls state with
  | nil =>
    rw [List.map_nil, List.append_nil]
    exact h
  | cons s rest ih =>
    rw [List.map_cons, ← List.singleton_append, ← List.append_assoc]
    exact ih (follows_pushOne h s)

end

/-! ## Answers -/

section

variable {r : Registry α}

/-- An answer that says whether a registry changed: the revision advances by one if it did, and all
is as before if not. -/
structure Reports (r : Registry α) (answer : Bool × Registry α) (changed : Prop) : Prop where
  told : answer.1 = true ↔ changed
  advanced : changed → answer.2.revision = r.revision + 1
  same : ¬changed → answer.2 = r

theorem resize_reports (r : Registry α) (n : Nat) : r.Reports (r.resize n) (n ≠ r.toolCount) := by
  unfold resize
  by_cases hsame : n = r.toolCount
  · rw [if_pos hsame]
    exact ⟨by simp [hsame], fun hne => absurd hsame hne, fun _ => rfl⟩
  · rw [if_neg hsame]
    exact ⟨by simp [hsame], fun _ => rfl, fun hne => absurd hsame hne⟩

variable [BEq α]

/-- A pushed selection differs from the slot that it meets when those before it were taken. -/
def Differs (r : Registry α) (selections : List (Selection α)) : Prop :=
  ∃ before s later, selections = before ++ s :: later ∧
    ∃ slot, (r.push before).2.slots[s.tool]? = some slot ∧ (slot == s.spool) = false

theorem pushOne_fst (state : Bool × List (Option (Spool α))) (s : Selection α) :
    (pushOne state s).1 = true ↔
      state.1 = true ∨ ∃ slot, state.2[s.tool]? = some slot ∧ (slot == s.spool) = false := by
  unfold pushOne
  cases hslot : state.2[s.tool]? with
  | none => simp
  | some slot =>
    cases hsame : slot == s.spool with
    | true => simp [hsame]
    | false => simp [hsame]

theorem differs_snoc (r : Registry α) (selections : List (Selection α)) (s : Selection α) :
    r.Differs (selections ++ [s]) ↔ r.Differs selections ∨
      ∃ slot, (r.push selections).2.slots[s.tool]? = some slot ∧ (slot == s.spool) = false := by
  constructor
  · rintro ⟨before, t, later, hsplit, hslot⟩
    rcases split_snoc hsplit with ⟨-, rfl, rfl⟩ | ⟨rest, -, rfl⟩
    · exact Or.inr hslot
    · exact Or.inl ⟨before, t, rest, rfl, hslot⟩
  · rintro (⟨before, t, later, rfl, hslot⟩ | hslot)
    · exact ⟨before, t, later ++ [s], by simp, hslot⟩
    · exact ⟨selections, s, [], rfl, hslot⟩

theorem push_fst_iff (r : Registry α) (selections : List (Selection α)) :
    (r.push selections).1 = true ↔ r.Differs selections := by
  induction selections using List.reverseRecOn with
  | nil =>
    refine iff_of_false Bool.false_ne_true ?_
    rintro ⟨before, s, later, hnil, -⟩
    exact absurd hnil.symm (List.append_ne_nil_of_right_ne_nil _ (List.cons_ne_nil _ _))
  | append_singleton selections s ih =>
    rw [differs_snoc, ← ih]
    show (List.foldl pushOne (false, r.slots) (selections ++ [s])).1 = true ↔ _
    rw [List.foldl_append]
    exact pushOne_fst _ s

theorem push_reports (r : Registry α) (selections : List (Selection α)) :
    r.Reports (r.push selections) (r.Differs selections) where
  told := push_fst_iff r selections
  advanced hdiffers := by
    have hchanged := (push_fst_iff r selections).mpr hdiffers
    unfold push at hchanged ⊢
    exact if_pos hchanged
  same hsame := eq_of_push (Prod.ext
    (Bool.eq_false_iff.mpr (mt (push_fst_iff r selections).mp hsame)) rfl)

end

/-! ## Runs -/

variable [BEq α]

/-- The registry after a call, whatever the call returns. -/
def call (r : Registry α) : Call α → Registry α
  | .resize count => (r.resize count).2
  | .set tool spool => ((Registry.set tool spool).run r).2
  | .push selections => (r.push selections).2

def after (r : Registry α) (calls : List (Call α)) : Registry α := calls.foldl call r

theorem call_set_of_le {r : Registry α} {tool : Nat} (h : r.toolCount ≤ tool)
    (spool : Option (Spool α)) : r.call (.set tool spool) = r := by
  simp only [call, run_set_of_le h]

theorem follows_call {r : Registry α} {count : Nat} {calls : List (Call α)}
    (h : Follows count calls r.slots) (c : Call α) :
    Follows count (calls ++ c.singly) (r.call c).slots := by
  cases c with
  | resize n => exact follows_resize h n
  | set tool spool =>
    by_cases hlt : tool < r.toolCount
    · have hcall : (r.call (.set tool spool)).slots = r.slots.set tool spool := by
        simp only [call, run_set_of_lt hlt]
      rw [hcall]
      refine follows_put h List.length_set (fun other hne => List.getElem?_set_ne hne.symm)
        fun slot hslot => ?_
      rw [List.getElem?_set_self hlt, Option.some.injEq] at hslot
      exact Or.inl hslot.symm
    · rw [call_set_of_le (Nat.not_lt.mp hlt)]
      exact follows_put h rfl (fun _ _ => rfl) fun slot hslot =>
        absurd (List.getElem?_eq_some_iff.mp hslot).1 hlt
  | push selections =>
    have hstart : Follows count calls ((false, r.slots) : Bool × List (Option (Spool α))).2 := h
    exact follows_pushed hstart selections

theorem follows_after (count : Nat) (calls : List (Call α)) :
    Follows count (calls.flatMap Call.singly) ((blank count).after calls).slots := by
  induction calls using List.reverseRecOn with
  | nil => exact follows_blank count
  | append_singleton calls c ih =>
    rw [List.flatMap_append, List.flatMap_singleton]
    show Follows count _ (List.foldl call (blank count) (calls ++ [c])).slots
    rw [List.foldl_append]
    exact follows_call ih c

/-- After any calls, a registry has the tools that were asked for last, and each holds, up to its
content, the spool that was put on it last since the printer has it again, or none if none was; the
selections of a push count one by one. The revision advances by one with a resize to another count,
a spool put on a tool that the printer has, and a push of which a selection differed from the slot
that it met. A resize and a push say whether it did, and if not then all is as before. A spool for
another tool is refused and changes nothing. -/
theorem slots_follow_calls (count : Nat) (calls : List (Call α)) :
    let r := (blank count).after calls
    r.toolCount = countAfter count calls ∧
    (∀ tool < r.toolCount, ∃ slot, r.get tool = .ok slot ∧
      ((∃ put, LatestPut count (calls.flatMap Call.singly) tool put ∧ Holds slot put) ∨
        (∀ put, ¬LatestPut count (calls.flatMap Call.singly) tool put) ∧ slot = none)) ∧
    (∀ n, r.Reports (r.resize n) (n ≠ r.toolCount)) ∧
    (∀ tool spool,
      (tool < r.toolCount →
        ∃ after, (set tool spool).run r = (.ok (), after) ∧ after.revision = r.revision + 1) ∧
      (r.toolCount ≤ tool →
        (set tool spool).run r = (.error (.outOfRange tool r.toolCount), r))) ∧
    ∀ selections, r.Reports (r.push selections) (r.Differs selections) := by
  intro r
  have hfollows : Follows count (calls.flatMap Call.singly) r.slots := follows_after count calls
  refine ⟨?_, fun tool htool => ?_, resize_reports r,
    fun tool spool => ⟨fun hlt => ?_, fun hle => ?_⟩, push_reports r⟩
  · rw [← countAfter_singly]
    exact hfollows.length
  · have hslot : r.slots[tool]? = some r.slots[tool] := List.getElem?_eq_getElem htool
    refine ⟨r.slots[tool], ?_, hfollows.holds tool _ hslot⟩
    unfold get
    rw [hslot]
  · exact ⟨_, run_set_of_lt hlt spool, rfl⟩
  · exact run_set_of_le hle spool

end Registry
end Filament
