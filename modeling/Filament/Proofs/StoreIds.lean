import Filament.Proofs.StoreChange

/-!
The ids that the store gives.

Every entry carries the id that it is stored under, a tool has no spool selected that is not stored,
and the counter has passed the ids in use (`Store.Numbered`). All calls keep this, and the counter
only grows. An id that was in use once is therefore never given again, also after the entry was
deleted (`Store.ids_never_reused`).
-/

namespace Filament

variable {α : Type}

/-- An entry for one of the tables, as it is sent to be added. -/
inductive Entry (α : Type) where
  | ofProfile (p : Profile α)
  | ofSpool (spool : Spool α)

/-- The checks that it has to pass. -/
def Entry.accept [Scalar α] : Entry α → Except (Error α) Unit
  | .ofProfile p => p.accept
  | .ofSpool spool => spool.accept

namespace Store

/-! ## Calls -/

/-- What may be asked of the store. -/
inductive Operation (α : Type) where
  | change (c : Change α)
  | select (tool : Nat) (id : Option Nat)
  | listProfiles (force : Bool)
  | listSpools (force : Bool)
  | listSelections
  | drain

/-- An id under which one of the tables has an entry. -/
def Stores (s : Store α) (id : Nat) : Prop :=
  s.profiles.contains id = true ∨ s.spools.contains id = true

/-- The counter gives the id no more. -/
def Spent (s : Store α) (id : Nat) : Prop := id < s.nextId ∨ s.nextId = Text.maxWord

theorem spent_mono {s t : Store α} {id : Nat} (h : s.Spent id) (hle : s.nextId ≤ t.nextId)
    (hmax : t.nextId ≤ Text.maxWord) : t.Spent id := by
  rcases h with hlt | hend
  · exact Or.inl (Nat.lt_of_lt_of_le hlt hle)
  · exact Or.inr (Nat.le_antisymm hmax (hend ▸ hle))

structure Numbered (s : Store α) : Prop where
  profileIds : ∀ id (p : Profile α), s.profiles[id]? = some p → p.id = some id
  spoolIds : ∀ id (spool : Spool α), s.spools[id]? = some spool → spool.id = some id
  selected : ∀ (tool id : Nat), s.selections[tool]? = some (some id) → s.spools.contains id = true
  spent : ∀ id, s.Stores id → s.Spent id
  bounded : s.nextId ≤ Text.maxWord

theorem numbered_empty : (empty : Store α).Numbered where
  profileIds id p hp := by simp [empty] at hp
  spoolIds id spool hspool := by simp [empty] at hspool
  selected tool id hid := by simp [empty] at hid
  spent id hid := by simp [Stores, empty] at hid
  bounded := Nat.zero_le _

/-! ## Counting -/

theorem allocate?_eq_none_iff {s : Store α} (h : s.nextId ≤ Text.maxWord) :
    s.allocate? = none ↔ s.nextId = Text.maxWord := by
  unfold allocate?
  dsimp only
  split
  · rename_i hlt
    have hne : s.nextId ≠ Text.maxWord := by omega
    simp [hne]
  · rename_i hend
    have hone : 1 < Text.maxWord := by decide
    have heq : s.nextId = Text.maxWord := by omega
    simp [heq]

/-- A given id is not below the counter, and the counter had not come to its end. -/
theorem allocate?_bounds {s t : Store α} {id : Nat} (h : s.allocate? = some (id, t)) :
    s.nextId ≤ id ∧ id < Text.maxWord := by
  unfold allocate? at h
  dsimp only at h
  split at h
  · rename_i hlt
    obtain ⟨rfl, -⟩ := Prod.mk.inj (Option.some.inj h)
    exact ⟨Nat.le_max_left _ _, hlt⟩
  · cases h

theorem seedId?_counts {s t : Store α} {own : Option Nat} {id : Nat}
    (h : s.seedId? own = some (id, t)) (hmax : s.nextId ≤ Text.maxWord) :
    s.nextId ≤ t.nextId ∧ t.nextId ≤ Text.maxWord ∧ t.Spent id := by
  cases own with
  | none =>
    obtain ⟨hle, hlt⟩ := allocate?_bounds h
    obtain rfl := allocate?_eq h
    exact ⟨Nat.le_succ_of_le hle, hlt, Or.inl (Nat.lt_succ_self id)⟩
  | some i =>
    obtain ⟨rfl, rfl⟩ := Prod.mk.inj (Option.some.inj h)
    refine ⟨Nat.le_max_left _ _, Nat.max_le.mpr ⟨hmax, Nat.min_le_right _ _⟩, ?_⟩
    show i < max s.nextId (min (i + 1) Text.maxWord) ∨
      max s.nextId (min (i + 1) Text.maxWord) = Text.maxWord
    omega

theorem numbered_count {s t : Store α} (h : s.Numbered) {own : Option Nat} {id : Nat}
    (hid : s.seedId? own = some (id, t)) : t.Numbered ∧ t.Spent id := by
  obtain ⟨hle, hmax, hspent⟩ := seedId?_counts hid h.bounded
  obtain ⟨⟨next, rfl⟩, -⟩ := seedId?_eq hid
  exact ⟨⟨h.profileIds, h.spoolIds, h.selected,
    fun other hother => spent_mono (h.spent other hother) hle hmax, hmax⟩, hspent⟩

/-! ## Entries -/

theorem numbered_announce {s : Store α} (h : s.Numbered) (table action : String) :
    (s.announce table action).Numbered :=
  ⟨h.profileIds, h.spoolIds, h.selected, h.spent, h.bounded⟩

theorem contains_insert_cases {γ : Type} {table : Std.TreeMap Nat γ} {id other : Nat} {entry : γ}
    (h : (table.insert id entry).contains other = true) :
    other = id ∨ table.contains other = true := by
  by_cases heq : compare id other = .eq
  · exact Or.inl (Nat.compare_eq_eq.mp heq).symm
  · exact Or.inr (Std.TreeMap.contains_of_contains_insert h heq)

theorem numbered_insertProfile {s : Store α} (h : s.Numbered) {id : Nat} (hid : s.Spent id)
    (p : Profile α) :
    Numbered { s with profiles := s.profiles.insert id { p with id := some id } } where
  profileIds :=
    forall_insert (P := fun id (p : Profile α) => p.id = some id) h.profileIds rfl rfl
  spoolIds := h.spoolIds
  selected := h.selected
  spent := by
    rintro other (hprofile | hspool)
    · rcases contains_insert_cases hprofile with rfl | hold
      · exact hid
      · exact h.spent other (Or.inl hold)
    · exact h.spent other (Or.inr hspool)
  bounded := h.bounded

theorem numbered_insertSpool {s : Store α} (h : s.Numbered) {id : Nat} (hid : s.Spent id)
    (spool : Spool α) :
    Numbered { s with spools := s.spools.insert id { spool with id := some id } } where
  profileIds := h.profileIds
  spoolIds :=
    forall_insert (P := fun id (spool : Spool α) => spool.id = some id) h.spoolIds rfl rfl
  selected := by
    intro tool other hother
    show (s.spools.insert id _).contains other = true
    rw [Std.TreeMap.contains_insert, h.selected tool other hother, Bool.or_true]
  spent := by
    rintro other (hprofile | hspool)
    · exact h.spent other (Or.inl hprofile)
    · rcases contains_insert_cases hspool with rfl | hold
      · exact hid
      · exact h.spent other (Or.inr hold)
  bounded := h.bounded

theorem numbered_remade {s : Store α} (h : s.Numbered) (id : Nat) (p : Profile α) :
    Numbered { s with spools := s.spools.map fun _ spool => spool.remade id p } where
  profileIds := h.profileIds
  spoolIds := by
    intro other stored hstored
    obtain ⟨spool, hspool, rfl⟩ := getElem?_map_eq_some hstored
    rw [← h.spoolIds other spool hspool, Spool.remade]
    split <;> rfl
  selected tool other hother := Std.TreeMap.contains_map.trans (h.selected tool other hother)
  spent := by
    rintro other (hprofile | hspool)
    · exact h.spent other (Or.inl hprofile)
    · exact h.spent other (Or.inr (Std.TreeMap.contains_map.symm.trans hspool))
  bounded := h.bounded

theorem numbered_eraseProfile {s : Store α} (h : s.Numbered) (id : Nat) :
    Numbered { s with profiles := s.profiles.erase id } where
  profileIds := forall_erase (P := fun id (p : Profile α) => p.id = some id) h.profileIds id
  spoolIds := h.spoolIds
  selected := h.selected
  spent := by
    rintro other (hprofile | hspool)
    · exact h.spent other (Or.inl (Std.TreeMap.contains_of_contains_erase hprofile))
    · exact h.spent other (Or.inr hspool)
  bounded := h.bounded

/-- A spool that is deleted is taken off the tools, so that no selection is left without its
spool. -/
theorem numbered_eraseSpool {s : Store α} (h : s.Numbered) (id : Nat) :
    Numbered { s with
      spools := s.spools.erase id
      selections := s.selections.map fun _ selected =>
        if selected = some id then none else selected } where
  profileIds := h.profileIds
  spoolIds := forall_erase (P := fun id (spool : Spool α) => spool.id = some id) h.spoolIds id
  selected := by
    intro tool other hother
    obtain ⟨selected, hselected, heq⟩ := getElem?_map_eq_some hother
    split at heq
    · cases heq
    · rename_i hne
      subst heq
      have hkept : compare id other ≠ .eq := fun hcompare =>
        hne (congrArg some (Nat.compare_eq_eq.mp hcompare).symm)
      show (s.spools.erase id).contains other = true
      rw [Std.TreeMap.contains_erase, h.selected tool other hselected, Bool.and_true, bne_iff_ne]
      exact hkept
  spent := by
    rintro other (hprofile | hspool)
    · exact h.spent other (Or.inl hprofile)
    · exact h.spent other (Or.inr (Std.TreeMap.contains_of_contains_erase hspool))
  bounded := h.bounded

theorem numbered_select {s : Store α} (h : s.Numbered) {id : Option Nat}
    (hid : ∀ i, id = some i → s.spools.contains i = true) (tool : Nat) :
    Numbered { s with selections := s.selections.insert tool id } where
  profileIds := h.profileIds
  spoolIds := h.spoolIds
  selected := by
    intro other i hother
    exact forall_insert (P := fun _ id => ∀ i, id = some i → s.spools.contains i = true)
      (fun other id hstored i hi => h.selected other i (hi ▸ hstored)) rfl hid other _ hother i rfl
  spent := h.spent
  bounded := h.bounded

/-! ## Seeds -/

theorem numbered_seedProfile {s : Store α} (h : s.Numbered) (p : Profile α) :
    (s.seedProfile p).Numbered := by
  unfold seedProfile
  cases hid : s.seedId? p.id with
  | none => exact h
  | some entry =>
    obtain ⟨hnumbered, hspent⟩ := numbered_count h hid
    exact numbered_insertProfile hnumbered hspent p

theorem numbered_seedSpool {s : Store α} (h : s.Numbered) (spool : Spool α) :
    (s.seedSpool spool).Numbered := by
  unfold seedSpool
  cases hid : s.seedId? spool.id with
  | none => exact h
  | some entry =>
    obtain ⟨hnumbered, hspent⟩ := numbered_count h hid
    exact numbered_insertSpool hnumbered hspent spool

theorem numbered_ofSeeds (profiles : List (Profile α)) (spools : List (Spool α)) :
    (ofSeeds profiles spools).Numbered :=
  List.foldlRecOn spools seedSpool
    (List.foldlRecOn profiles seedProfile numbered_empty fun _ h p _ => numbered_seedProfile h p)
    fun _ h spool _ => numbered_seedSpool h spool

/-! ## Runs -/

section

variable [Scalar α]

/-- The store after a call, whether or not it was refused. -/
def operate (s : Store α) : Operation α → Store α
  | .change c => s.change c
  | .select tool id => ((Backend.updateSelection tool id : Action _ (Error α) _).run s).2
  | .listProfiles force => ((Backend.listProfiles force : Action _ (Error α) _).run s).2
  | .listSpools force => ((Backend.listSpools force : Action _ (Error α) _).run s).2
  | .listSelections => ((Backend.listSelections : Action _ (Error α) _).run s).2
  | .drain => s.drain.2

/-- The store after calls, whether or not they were refused. -/
def after (s : Store α) (ops : List (Operation α)) : Store α := ops.foldl operate s

/-- The id in the answer to an entry that is to be added. -/
def added (s : Store α) : Entry α → Except (Error α) (Option Nat)
  | .ofProfile p => ((addProfile p).run s).1.map Profile.id
  | .ofSpool spool => ((addSpool spool).run s).1.map Spool.id

theorem numbered_change {s : Store α} (h : s.Numbered) (c : Change α) :
    (s.change c).Numbered ∧ s.nextId ≤ (s.change c).nextId := by
  have hchanged := s.change_changed c
  generalize s.change c = t at hchanged ⊢
  cases hchanged with
  | refused => exact ⟨h, Nat.le_refl _⟩
  | profileAdded p id haccept hid =>
    have hseed : s.seedId? none = some (id, { s with nextId := id + 1 }) := hid
    obtain ⟨hcounted, hspent⟩ := numbered_count h hseed
    exact ⟨numbered_announce (numbered_insertProfile hcounted hspent p) _ _,
      Nat.le_succ_of_le (allocate?_bounds hid).1⟩
  | profileUpdated id p haccept hstored =>
    have hremade := numbered_remade h id p
    exact ⟨numbered_announce
      (numbered_insertProfile hremade (h.spent id (Or.inl hstored)) p) _ _, Nat.le_refl _⟩
  | profileDeleted id hunused =>
    exact ⟨numbered_announce (numbered_eraseProfile h id) _ _, Nat.le_refl _⟩
  | spoolAdded spool id haccept hid =>
    have hseed : s.seedId? none = some (id, { s with nextId := id + 1 }) := hid
    obtain ⟨hcounted, hspent⟩ := numbered_count h hseed
    exact ⟨numbered_announce (numbered_insertSpool hcounted hspent spool) _ _,
      Nat.le_succ_of_le (allocate?_bounds hid).1⟩
  | spoolUpdated id spool haccept hstored =>
    exact ⟨numbered_announce
      (numbered_insertSpool h (h.spent id (Or.inr hstored)) spool) _ _, Nat.le_refl _⟩
  | spoolDeleted id =>
    exact ⟨numbered_announce (numbered_eraseSpool h id) _ _, Nat.le_refl _⟩

/-- Selecting puts on a tool what may be on it, or is refused. -/
theorem operate_select (s : Store α) (tool : Nat) (id : Option Nat) :
    s.operate (.select tool id) = s ∨
      (∀ i, id = some i → s.spools.contains i = true) ∧
        s.operate (.select tool id) = { s with selections := s.selections.insert tool id } := by
  cases id with
  | none =>
    have hnone : ∀ i, (none : Option Nat) = some i → s.spools.contains i = true := nofun
    exact Or.inr ⟨hnone, congrArg Prod.snd (run_updateSelection hnone tool)⟩
  | some i =>
    cases hstored : s.spools.contains i with
    | false => exact Or.inl (congrArg Prod.snd (run_updateSelection_error hstored tool))
    | true =>
      have hsome : ∀ j, some i = some j → s.spools.contains j = true := by
        intro j hj
        rw [← Option.some.inj hj]
        exact hstored
      exact Or.inr ⟨hsome, congrArg Prod.snd (run_updateSelection hsome tool)⟩

theorem numbered_operate {s : Store α} (h : s.Numbered) (op : Operation α) :
    (s.operate op).Numbered ∧ s.nextId ≤ (s.operate op).nextId := by
  cases op with
  | change c => exact numbered_change h c
  | select tool id =>
    rcases s.operate_select tool id with hsame | ⟨hid, hselect⟩
    · rw [hsame]
      exact ⟨h, Nat.le_refl _⟩
    · rw [hselect]
      exact ⟨numbered_select h hid tool, Nat.le_refl _⟩
  | listProfiles | listSpools | listSelections => exact ⟨h, Nat.le_refl _⟩
  | drain =>
    exact ⟨⟨h.profileIds, h.spoolIds, h.selected, h.spent, h.bounded⟩, Nat.le_refl _⟩

theorem numbered_after {s : Store α} (h : s.Numbered) (ops : List (Operation α)) :
    (s.after ops).Numbered ∧ s.nextId ≤ (s.after ops).nextId := by
  induction ops generalizing s with
  | nil => exact ⟨h, Nat.le_refl _⟩
  | cons op rest ih =>
    obtain ⟨hnumbered, hle⟩ := numbered_operate h op
    obtain ⟨hafter, hrest⟩ := ih hnumbered
    exact ⟨hafter, Nat.le_trans hle hrest⟩

theorem after_append (s : Store α) (earlier rest : List (Operation α)) :
    s.after (earlier ++ rest) = (s.after earlier).after rest := List.foldl_append

/-! ## Additions -/

theorem added_eq {entry : Entry α} (haccept : entry.accept = .ok ()) (s : Store α) :
    s.added entry =
      match s.allocate? with
      | some (id, _) => .ok (some id)
      | none => .error (.backend .noIdsLeft) := by
  cases entry with
  | ofProfile p =>
    rw [added, run_addProfile haccept]
    cases s.allocate? <;> rfl
  | ofSpool spool =>
    rw [added, run_addSpool haccept]
    cases s.allocate? <;> rfl

theorem added_error {entry : Entry α} {e : Error α} (haccept : entry.accept = .error e)
    (s : Store α) : s.added entry = .error e := by
  cases entry with
  | ofProfile p => rw [added, run_addProfile_error haccept]; rfl
  | ofSpool spool => rw [added, run_addSpool_error haccept]; rfl

theorem added_eq_ok {s : Store α} {entry : Entry α} {answer : Option Nat}
    (h : s.added entry = .ok answer) :
    ∃ id, answer = some id ∧ s.nextId ≤ id ∧ id < Text.maxWord := by
  cases haccept : entry.accept with
  | error e =>
    rw [added_error haccept] at h
    cases h
  | ok u =>
    rw [added_eq haccept] at h
    cases hid : s.allocate? with
    | none =>
      rw [hid] at h
      cases h
    | some given =>
      obtain ⟨id, t⟩ := given
      rw [hid] at h
      exact ⟨id, (Except.ok.inj h).symm, allocate?_bounds hid⟩

theorem added_eq_error_iff {s : Store α} (h : s.nextId ≤ Text.maxWord) {entry : Entry α}
    (haccept : entry.accept = .ok ()) :
    (∃ e, s.added entry = .error e) ↔ s.nextId = Text.maxWord := by
  rw [← allocate?_eq_none_iff h, added_eq haccept]
  cases s.allocate? with
  | none => exact iff_of_true ⟨_, rfl⟩ rfl
  | some given => exact iff_of_false (by simp) (by simp)

/-- Whatever the store was filled with at first and was asked for since, every entry carries the id
that it is stored under, every spool that is selected is stored, and the counter has never gone back
or beyond the largest word. The id of an entry that is added now was never in use before, not even
by an entry since deleted; and a valid entry is turned down only if the counter has come to its
end. -/
theorem ids_never_reused (profiles : List (Profile α)) (spools : List (Spool α))
    (ops : List (Operation α)) :
    let s := (ofSeeds profiles spools).after ops
    (∀ id (p : Profile α), s.profiles[id]? = some p → p.id = some id) ∧
    (∀ id (spool : Spool α), s.spools[id]? = some spool → spool.id = some id) ∧
    (∀ (tool id : Nat), s.selections[tool]? = some (some id) → s.spools.contains id = true) ∧
    (∀ entry answer, s.added entry = .ok answer → ∃ id, answer = some id ∧
      ∀ earlier, earlier <+: ops → ¬((ofSeeds profiles spools).after earlier).Stores id) ∧
    (∀ entry : Entry α, entry.accept = .ok () →
      ((∃ e, s.added entry = .error e) ↔ s.nextId = Text.maxWord)) ∧
    s.nextId ≤ Text.maxWord ∧
    ∀ earlier, earlier <+: ops → ((ofSeeds profiles spools).after earlier).nextId ≤ s.nextId := by
  intro s
  have hseeds : (ofSeeds profiles spools).Numbered := numbered_ofSeeds profiles spools
  have hnumbered : s.Numbered := (numbered_after hseeds ops).1
  have hgrows : ∀ earlier, earlier <+: ops →
      ((ofSeeds profiles spools).after earlier).nextId ≤ s.nextId := by
    rintro earlier ⟨rest, rfl⟩
    show _ ≤ ((ofSeeds profiles spools).after (earlier ++ rest)).nextId
    rw [after_append]
    exact (numbered_after (numbered_after hseeds earlier).1 rest).2
  refine ⟨hnumbered.profileIds, hnumbered.spoolIds, hnumbered.selected, ?_,
    fun entry haccept => added_eq_error_iff hnumbered.bounded haccept, hnumbered.bounded, hgrows⟩
  intro entry answer hadded
  obtain ⟨id, hanswer, hle, hlt⟩ := added_eq_ok hadded
  refine ⟨id, hanswer, fun earlier hearlier hstores => ?_⟩
  -- What was in use is below the counter, and so below the id given now.
  have hbefore := hgrows earlier hearlier
  rcases (numbered_after hseeds earlier).1.spent id hstores with hpassed | hend
  · omega
  · omega

end

end Store
end Filament
