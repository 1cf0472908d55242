import Filament.Proofs.ReplayStep

/-!
Selecting a spool, all or nothing.

The tool is looked up first, then the backend stores the selection, then the accounting takes over
what the backend answered. The lookup leaves nothing that the accounting could refuse afterwards, so
a selection that fails has changed neither of the two, and one that succeeds has changed both in
just the one tool (`select_all_or_nothing`).
-/

namespace Filament
namespace Replay

variable {s : State Float} {tool : Nat} {id : Option Nat}

/-- What a selection that was made leaves behind: the backend has the id for the tool, the tool has
the spool that the backend stores under the id, and all else in the two is as before. -/
structure Selected (s : State Float) (tool : Nat) (id : Option Nat) (t : State Float) : Prop where
  backend : t.backend = { s.backend with selections := t.backend.selections }
  selection : t.backend.selections[tool]? = some id
  otherSelections : ∀ other, other ≠ tool →
    t.backend.selections[other]? = s.backend.selections[other]?
  slot : t.accounting.registry.slots[tool]? = some (id.bind fun i => t.backend.spools[i]?)
  otherSlots : ∀ other, other ≠ tool →
    t.accounting.registry.slots[other]? = s.accounting.registry.slots[other]?

theorem selected_of_stored (hlt : tool < s.accounting.registry.toolCount)
    {after : Accounting Float NoticeLog}
    (hslots : after.registry.slots =
      s.accounting.registry.slots.set tool (s.backend.resolve id)) :
    Selected s tool id {
      accounting := after
      backend := { s.backend with selections := s.backend.selections.insert tool id } } where
  backend := rfl
  selection := Std.TreeMap.getElem?_insert_self
  otherSelections other hother := by
    show (s.backend.selections.insert tool id)[other]? = _
    rw [Std.TreeMap.getElem?_insert, if_neg (Nat.compare_eq_eq.not.mpr hother.symm)]
  slot := by
    show after.registry.slots[tool]? = _
    rw [hslots]
    exact List.getElem?_set_self hlt
  otherSlots other hother := by
    show after.registry.slots[other]? = _
    rw [hslots]
    exact List.getElem?_set_ne hother.symm

/-- A selection fails exactly if the printer does not have the tool or the backend does not have the
spool. Then nothing at all has changed; otherwise the one tool has its spool in both places. -/
theorem select_all_or_nothing (s : State Float) (tool : Nat) (id : Option Nat) :
    let asked := (Session.select tool id : Action (State Float) (Error Float) _).run s
    ((∃ e, asked.1 = .error e) ↔
      s.accounting.registry.toolCount ≤ tool ∨
        ∃ i, id = some i ∧ s.backend.spools.contains i = false) ∧
    (∀ e, asked.1 = .error e → asked.2 = s) ∧
    ∀ outcome, asked.1 = .ok outcome → Selected s tool id asked.2 := by
  intro asked
  cases run_select s tool id with
  | stored hlt hknown hrun =>
    obtain ⟨outcome, after, hselected, hslots⟩ := run_select_of_stored hlt hrun
    have hasked : asked = _ := hselected
    rw [hasked]
    refine ⟨iff_of_false nofun ?_, nofun, fun _ _ => selected_of_stored hlt hslots⟩
    rintro (hle | ⟨i, hid, hmissing⟩)
    · exact Nat.not_lt.mpr hle hlt
    · rw [hknown i hid] at hmissing
      cases hmissing
  | unknownSpool i hlt hid hmissing hrun =>
    have hasked : asked = _ := hrun
    rw [hasked]
    exact ⟨iff_of_true ⟨_, rfl⟩ (Or.inr ⟨i, hid, hmissing⟩), fun _ _ => rfl, nofun⟩
  | unknownTool hlt hrun =>
    have hasked : asked = _ := hrun
    rw [hasked]
    exact ⟨iff_of_true ⟨_, rfl⟩ (Or.inl (Nat.not_lt.mp hlt)), fun _ _ => rfl, nofun⟩

end Replay
end Filament
