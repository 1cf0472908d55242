import Filament.Registry

/-!
The slots of a registry.

After a resize the registry has the tools that were asked for, and no spool on a tool that had none
before. Pushed selections leave the tool count alone, and with one selection a tool each slot gets
its own, or stays as it is if its content is the same (`overlay`).
-/

namespace Filament
namespace Registry

variable {α : Type}

/-! ## Another tool count -/

theorem toolCount_resize (r : Registry α) (count : Nat) : (r.resize count).2.toolCount = count := by
  unfold resize
  split
  · rename_i hsame
    exact hsame.symm
  · show (r.slots.take count ++ List.replicate (count - r.slots.length) none).length = count
    rw [List.length_append, List.length_take, List.length_replicate]
    omega

theorem resize_slots {r : Registry α} {count tool : Nat} {spool : Spool α}
    (h : (r.resize count).2.slots[tool]? = some (some spool)) :
    r.slots[tool]? = some (some spool) := by
  unfold resize at h
  split at h
  · exact h
  · rw [List.getElem?_append] at h
    split at h
    · rw [List.getElem?_take] at h
      split at h
      · exact h
      · cases h
    · cases List.eq_of_mem_replicate (List.mem_of_getElem? h)

/-! ## Pushed selections -/

variable [BEq α]

/-- A slot after a selection was pushed for its tool. -/
def overlay (pushed slot : Option (Spool α)) : Option (Spool α) :=
    if slot == pushed then slot else pushed

theorem overlay_eq_or (pushed slot : Option (Spool α)) :
    overlay pushed slot = pushed ∨ overlay pushed slot = slot ∧ (slot == pushed) = true := by
  unfold overlay
  by_cases h : (slot == pushed) = true
  · rw [if_pos h]
    exact Or.inr ⟨rfl, h⟩
  · rw [if_neg h]
    exact Or.inl rfl

theorem overlay_none (pushed : Option (Spool α)) : overlay pushed none = pushed := by
  cases pushed <;> rfl

theorem overlay_self (pushed : Option (Spool α)) : overlay pushed pushed = pushed := ite_self pushed

theorem pushOne_getElem? (state : Bool × List (Option (Spool α))) (s : Selection α) (tool : Nat) :
    (pushOne state s).2[tool]? =
      if s.tool = tool then state.2[tool]?.map (overlay s.spool) else state.2[tool]? := by
  unfold pushOne
  by_cases htool : s.tool = tool
  · subst htool
    rw [if_pos rfl]
    cases hslot : state.2[s.tool]? with
    | none => exact hslot
    | some slot =>
      have hlt : s.tool < state.2.length := (List.getElem?_eq_some_iff.mp hslot).1
      dsimp only
      rw [Option.map_some, overlay]
      by_cases hsame : (slot == s.spool) = true
      · rw [if_pos hsame, if_pos hsame]
        exact hslot
      · rw [if_neg hsame, if_neg hsame]
        exact List.getElem?_set_self hlt
  · rw [if_neg htool]
    cases hslot : state.2[s.tool]? with
    | none => rfl
    | some slot =>
      dsimp only
      split
      · rfl
      · exact List.getElem?_set_ne htool

variable {r : Registry α} {selections : List (Selection α)}

theorem foldl_pushOne_of_not_mem {tool : Nat} (h : tool ∉ selections.map Selection.tool)
    (state : Bool × List (Option (Spool α))) :
    (selections.foldl pushOne state).2[tool]? = state.2[tool]? := by
  induction selections generalizing state with
  | nil => rfl
  | cons s rest ih =>
    rw [List.map_cons, List.mem_cons, not_or] at h
    rw [List.foldl_cons, ih h.2, pushOne_getElem?, if_neg (Ne.symm h.1)]

theorem mem_pushOne {state : Bool × List (Option (Spool α))} {s : Selection α}
    {slot : Option (Spool α)} (h : slot ∈ (pushOne state s).2) :
    slot ∈ state.2 ∨ slot = s.spool := by
  unfold pushOne at h
  split at h
  · split at h
    · exact Or.inl h
    · exact List.mem_or_eq_of_mem_set h
  · exact Or.inl h

/-- With one selection a tool, each tool gets its own. -/
theorem foldl_pushOne_of_mem (hdistinct : (selections.map Selection.tool).Nodup) {s : Selection α}
    (hs : s ∈ selections) (state : Bool × List (Option (Spool α))) :
    (selections.foldl pushOne state).2[s.tool]? = state.2[s.tool]?.map (overlay s.spool) := by
  induction selections generalizing state with
  | nil => cases hs
  | cons first rest ih =>
    rw [List.map_cons, List.nodup_cons] at hdistinct
    obtain ⟨hfirst, hrest⟩ := hdistinct
    rw [List.foldl_cons]
    rcases List.mem_cons.mp hs with rfl | hmem
    · rw [foldl_pushOne_of_not_mem hfirst, pushOne_getElem?, if_pos rfl]
    · have hne : first.tool ≠ s.tool := by
        intro heq
        exact hfirst (heq ▸ List.mem_map_of_mem hmem)
      rw [ih hrest hmem, pushOne_getElem?, if_neg hne]

theorem push_slots_of_mem (hdistinct : (selections.map Selection.tool).Nodup) {s : Selection α}
    (hs : s ∈ selections) :
    (r.push selections).2.slots[s.tool]? = r.slots[s.tool]?.map (overlay s.spool) :=
  foldl_pushOne_of_mem hdistinct hs (false, r.slots)

theorem push_slots_of_not_mem {tool : Nat} (h : tool ∉ selections.map Selection.tool) :
    (r.push selections).2.slots[tool]? = r.slots[tool]? :=
  foldl_pushOne_of_not_mem h (false, r.slots)

theorem mem_push {slot : Option (Spool α)} (h : slot ∈ (r.push selections).2.slots) :
    slot ∈ r.slots ∨ ∃ s ∈ selections, slot = s.spool := by
  have hfold : ∀ state : Bool × List (Option (Spool α)),
      slot ∈ (selections.foldl pushOne state).2 → slot ∈ state.2 ∨ ∃ s ∈ selections,
        slot = s.spool := by
    clear h
    intro state h
    induction selections generalizing state with
    | nil => exact Or.inl h
    | cons s rest ih =>
      rcases ih (pushOne state s) h with hone | ⟨t, ht, hslot⟩
      · rcases mem_pushOne hone with hold | hpushed
        · exact Or.inl hold
        · exact Or.inr ⟨s, List.mem_cons_self, hpushed⟩
      · exact Or.inr ⟨t, List.mem_cons_of_mem s ht, hslot⟩
  exact hfold (false, r.slots) h

theorem push_of_agrees
    (h : ∀ s ∈ selections, ∀ slot, r.slots[s.tool]? = some slot → (slot == s.spool) = true) :
    r.push selections = (false, r) := by
  have hfold : selections.foldl pushOne (false, r.slots) = (false, r.slots) := by
    induction selections with
    | nil => rfl
    | cons s rest ih =>
      have hone : pushOne (false, r.slots) s = (false, r.slots) := by
        unfold pushOne
        cases hslot : r.slots[s.tool]? with
        | none => rfl
        | some slot => simp only [h s List.mem_cons_self slot hslot, if_true]
      rw [List.foldl_cons, hone]
      exact ih fun t ht => h t (List.mem_cons_of_mem s ht)
  unfold push
  rw [hfold]
  rfl

theorem length_pushOne (state : Bool × List (Option (Spool α))) (s : Selection α) :
    (pushOne state s).2.length = state.2.length := by
  unfold pushOne
  split
  · split
    · rfl
    · exact List.length_set
  · rfl

theorem toolCount_push : (r.push selections).2.toolCount = r.toolCount := by
  have hfold : ∀ state : Bool × List (Option (Spool α)),
      (selections.foldl pushOne state).2.length = state.2.length := by
    intro state
    induction selections generalizing state with
    | nil => rfl
    | cons s rest ih => rw [List.foldl_cons, ih, length_pushOne]
  exact hfold (false, r.slots)

end Registry
end Filament
