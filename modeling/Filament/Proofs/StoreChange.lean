import Filament.Proofs.Booking

/-!
Changes to the store.

All that a change to a table can do is said once (`Store.change_changed`). It leaves every stored
spool valid and under its own id, keeps the tools that have a selection, and leaves a message behind
unless it did nothing at all; a store reached by changes is therefore known by what waits in its
outbox (`Store.Announced`). Sending the usage of a print is one such change a spool.
-/

namespace Filament

variable {α : Type}

/-- A change that may be asked of a table. -/
inductive Change (α : Type) where
  | addProfile (p : Profile α)
  | updateProfile (id : Nat) (p : Profile α)
  | deleteProfile (id : Nat)
  | addSpool (spool : Spool α)
  | updateSpool (id : Nat) (spool : Spool α)
  | deleteSpool (id : Nat)

/-- The spool after the material with an id was replaced. -/
def Spool.remade (spool : Spool α) (id : Nat) (p : Profile α) : Spool α :=
  if spool.profile.id == some id then { spool with profile := { p with id := some id } } else spool

section

variable [Scalar α]

theorem Spool.check_remade {spool : Spool α} (h : spool.check = .ok ()) {p : Profile α}
    (hp : p.accept = .ok ()) (id : Nat) : (spool.remade id p).check = .ok () := by
  unfold remade
  split
  · obtain ⟨hdensity, hdiameter⟩ := Profile.measures_of_accept hp
    rw [check_eq_ok_iff] at h ⊢
    obtain ⟨hname, -, -, -, hrest⟩ := h
    exact ⟨hname, rfl, hdiameter, hdensity, hrest⟩
  · exact h

end

namespace Store

/-! ## One change -/

theorem allocate?_eq {s t : Store α} {id : Nat} (h : s.allocate? = some (id, t)) :
    t = { s with nextId := id + 1 } := by
  unfold allocate? at h
  dsimp only at h
  split at h
  · obtain ⟨rfl, rfl⟩ := Prod.mk.inj (Option.some.inj h)
    rfl
  · cases h

theorem run_allocate (s : Store α) :
    allocate.run s =
      match s.allocate? with
      | some (id, t) => (.ok id, t)
      | none => (.error (.backend .noIdsLeft), s) := by
  simp only [allocate, Action.run_bind, Action.run_get]
  cases s.allocate? with
  | none => rfl
  | some entry => simp [Action.run_map, Except.map]

section

variable [Scalar α]

theorem run_addProfile {p : Profile α} (haccept : p.accept = .ok ()) (s : Store α) :
    (addProfile p).run s =
      match s.allocate? with
      | some (id, t) =>
        (.ok { p with id := some id },
          { t with profiles := t.profiles.insert id { p with id := some id } }.announce
            "profiles" "add")
      | none => (.error (.backend .noIdsLeft), s) := by
  simp only [addProfile, Action.run_bind, Action.run_liftExcept, haccept, run_allocate]
  cases s.allocate? with
  | none => rfl
  | some entry => rfl

theorem run_addProfile_error {p : Profile α} {e : Error α} (haccept : p.accept = .error e)
    (s : Store α) : (addProfile p).run s = (.error e, s) := by
  simp only [addProfile, Action.run_bind, Action.run_liftExcept, haccept]

theorem run_addSpool {spool : Spool α} (haccept : spool.accept = .ok ()) (s : Store α) :
    (addSpool spool).run s =
      match s.allocate? with
      | some (id, t) =>
        (.ok { spool with id := some id },
          { t with spools := t.spools.insert id { spool with id := some id } }.announce
            "spools" "add")
      | none => (.error (.backend .noIdsLeft), s) := by
  simp only [addSpool, Action.run_bind, Action.run_liftExcept, haccept, run_allocate]
  cases s.allocate? with
  | none => rfl
  | some entry => rfl

theorem run_addSpool_error {spool : Spool α} {e : Error α} (haccept : spool.accept = .error e)
    (s : Store α) : (addSpool spool).run s = (.error e, s) := by
  simp only [addSpool, Action.run_bind, Action.run_liftExcept, haccept]

theorem addSpool_cases (s : Store α) (spool : Spool α) :
    (∃ e, (addSpool spool).run s = (.error e, s)) ∨
      ∃ id, spool.accept = .ok () ∧ s.allocate? = some (id, { s with nextId := id + 1 }) ∧
        (addSpool spool).run s = (.ok { spool with id := some id },
          { s with
            nextId := id + 1
            spools := s.spools.insert id { spool with id := some id }
          }.announce "spools" "add") := by
  cases haccept : spool.accept with
  | error e => exact Or.inl ⟨e, run_addSpool_error haccept s⟩
  | ok u =>
    rw [run_addSpool haccept]
    cases hid : s.allocate? with
    | none => exact Or.inl ⟨_, rfl⟩
    | some entry =>
      obtain ⟨id, t⟩ := entry
      obtain rfl := allocate?_eq hid
      exact Or.inr ⟨id, rfl, rfl, rfl⟩

theorem updateSpool_cases (s : Store α) (id : Nat) (spool : Spool α) :
    (∃ e, (updateSpool id spool).run s = (.error e, s)) ∨
      spool.accept = .ok () ∧ s.spools.contains id = true ∧
        (updateSpool id spool).run s =
          (.ok { spool with id := some id }, s.replaced id { spool with id := some id }) := by
  cases hcheck : spool.check with
  | error cause => exact Or.inl ⟨_, run_updateSpool_invalid hcheck id s⟩
  | ok u =>
    have haccept : spool.accept = .ok () := Spool.accept_eq_ok_iff.mpr hcheck
    cases hstored : s.spools.contains id with
    | false => exact Or.inl ⟨_, run_updateSpool_unknown haccept hstored⟩
    | true => exact Or.inr ⟨haccept, rfl, run_updateSpool haccept hstored⟩

/-- The store after a change was asked for, whether or not it was refused. -/
def change (s : Store α) : Change α → Store α
  | .addProfile p => ((addProfile p).run s).2
  | .updateProfile id p => ((updateProfile id p).run s).2
  | .deleteProfile id => ((deleteProfile id).run s).2
  | .addSpool spool => ((addSpool spool).run s).2
  | .updateSpool id spool => ((updateSpool id spool).run s).2
  | .deleteSpool id => ((deleteSpool id).run s).2

/-- All that a change can do: nothing, or what it says, with a message about it. -/
inductive Changed (s : Store α) : Change α → Store α → Prop where
  | refused (c : Change α) : Changed s c s
  | profileAdded (p : Profile α) (id : Nat) (haccept : p.accept = .ok ())
      (hid : s.allocate? = some (id, { s with nextId := id + 1 })) :
      Changed s (.addProfile p)
        ({ s with
          nextId := id + 1
          profiles := s.profiles.insert id { p with id := some id } }.announce "profiles" "add")
  | profileUpdated (id : Nat) (p : Profile α) (haccept : p.accept = .ok ())
      (hstored : s.profiles.contains id = true) :
      Changed s (.updateProfile id p)
        ({ s with
          profiles := s.profiles.insert id { p with id := some id }
          spools := s.spools.map fun _ (spool : Spool α) => spool.remade id p }.announce
            "profiles" "update")
  | profileDeleted (id : Nat)
      (hunused : (s.spools.values.any fun spool => spool.profile.id == some id) = false) :
      Changed s (.deleteProfile id)
        ({ s with profiles := s.profiles.erase id }.announce "profiles" "delete")
  | spoolAdded (spool : Spool α) (id : Nat) (haccept : spool.accept = .ok ())
      (hid : s.allocate? = some (id, { s with nextId := id + 1 })) :
      Changed s (.addSpool spool)
        ({ s with
          nextId := id + 1
          spools := s.spools.insert id { spool with id := some id } }.announce "spools" "add")
  | spoolUpdated (id : Nat) (spool : Spool α) (haccept : spool.accept = .ok ())
      (hstored : s.spools.contains id = true) :
      Changed s (.updateSpool id spool) (s.replaced id { spool with id := some id })
  | spoolDeleted (id : Nat) :
      Changed s (.deleteSpool id)
        ({ s with
          spools := s.spools.erase id
          selections := s.selections.map fun _ selected =>
            if selected = some id then none else selected }.announce "spools" "delete")

theorem change_changed (s : Store α) (c : Change α) : s.Changed c (s.change c) := by
  cases c with
  | addProfile p =>
    simp only [change]
    cases haccept : p.accept with
    | error e =>
      rw [run_addProfile_error haccept]
      exact .refused _
    | ok u =>
      rw [run_addProfile haccept]
      cases hid : s.allocate? with
      | none => exact .refused _
      | some entry =>
        obtain ⟨id, t⟩ := entry
        obtain rfl := allocate?_eq hid
        exact .profileAdded p id haccept hid
  | updateProfile id p =>
    simp only [change, updateProfile, Action.run_bind, Action.run_liftExcept]
    cases haccept : p.accept with
    | error e => exact .refused _
    | ok u =>
      simp only [Action.run_get]
      by_cases hstored : s.profiles.contains id = true
      · simp only [hstored, Bool.not_true, Bool.false_eq_true, if_false]
        exact .profileUpdated id p haccept hstored
      · simp only [hstored, Bool.not_false, if_true]
        exact .refused _
  | deleteProfile id =>
    simp only [change, deleteProfile, Action.run_bind, Action.run_get]
    by_cases hused : (s.spools.values.any fun spool => spool.profile.id == some id) = true
    · simp only [hused, if_true]
      exact .refused _
    · simp only [hused]
      exact .profileDeleted id (Bool.eq_false_iff.mpr hused)
  | addSpool spool =>
    simp only [change]
    rcases s.addSpool_cases spool with ⟨e, hrun⟩ | ⟨id, haccept, hid, hrun⟩
    · rw [hrun]
      exact .refused _
    · rw [hrun]
      exact .spoolAdded spool id haccept hid
  | updateSpool id spool =>
    simp only [change]
    rcases s.updateSpool_cases id spool with ⟨e, hrun⟩ | ⟨haccept, hstored, hrun⟩
    · rw [hrun]
      exact .refused _
    · rw [hrun]
      exact .spoolUpdated id spool haccept hstored
  | deleteSpool id => exact .spoolDeleted id

/-! ## Sound stores -/

/-- Every stored spool is valid and has the id that it is stored under. -/
def Sound (s : Store α) : Prop :=
  ∀ id (spool : Spool α), s.spools[id]? = some spool → spool.id = some id ∧ spool.check = .ok ()

omit [Scalar α] in
/-- What holds of all entries of a table, and of one more, holds of all when that one is stored. -/
theorem forall_insert {γ : Type} {P : Nat → γ → Prop} {table after : Std.TreeMap Nat γ} {id : Nat}
    {entry : γ} (h : ∀ other stored, table[other]? = some stored → P other stored)
    (hafter : after = table.insert id entry) (hentry : P id entry) :
    ∀ other stored, after[other]? = some stored → P other stored := by
  intro other stored hstored
  rw [hafter, Std.TreeMap.getElem?_insert] at hstored
  by_cases hid : compare id other = .eq
  · rw [if_pos hid] at hstored
    obtain rfl := Option.some.inj hstored
    obtain rfl := Nat.compare_eq_eq.mp hid
    exact hentry
  · rw [if_neg hid] at hstored
    exact h other stored hstored

omit [Scalar α] in
theorem forall_erase {γ : Type} {P : Nat → γ → Prop} {table : Std.TreeMap Nat γ}
    (h : ∀ other stored, table[other]? = some stored → P other stored) (id : Nat) :
    ∀ other stored, (table.erase id)[other]? = some stored → P other stored := by
  intro other stored hstored
  rw [Std.TreeMap.getElem?_erase] at hstored
  split at hstored
  · cases hstored
  · exact h other stored hstored

omit [Scalar α] in
theorem getElem?_map_eq_some {γ δ : Type} {f : Nat → γ → δ} {table : Std.TreeMap Nat γ} {id : Nat}
    {mapped : δ} (h : (table.map f)[id]? = some mapped) :
    ∃ entry, table[id]? = some entry ∧ f id entry = mapped := by
  rw [Std.TreeMap.getElem?_map] at h
  exact Option.map_eq_some_iff.mp h

theorem sound_insert {s : Store α} (h : s.Sound) {spool : Spool α} (hspool : spool.check = .ok ())
    {t : Store α} {id : Nat} (ht : t.spools = s.spools.insert id { spool with id := some id }) :
    t.Sound :=
  forall_insert (P := fun id (spool : Spool α) => spool.id = some id ∧ spool.check = .ok ()) h ht
    ⟨rfl, hspool⟩

theorem sound_change {s : Store α} (h : s.Sound) (c : Change α) : (s.change c).Sound := by
  have hchanged := s.change_changed c
  generalize s.change c = t at hchanged ⊢
  cases hchanged with
  | refused => exact h
  | profileAdded p id haccept hid => exact h
  | profileUpdated id p haccept hstored =>
    intro other stored hother
    obtain ⟨spool, hspool, rfl⟩ := getElem?_map_eq_some hother
    obtain ⟨hown, hcheck⟩ := h other spool hspool
    refine ⟨?_, Spool.check_remade hcheck haccept id⟩
    rw [← hown, Spool.remade]
    split <;> rfl
  | profileDeleted id hunused => exact h
  | spoolAdded spool id haccept hid =>
    exact sound_insert h (Spool.accept_eq_ok_iff.mp haccept) rfl
  | spoolUpdated id spool haccept hstored =>
    exact sound_insert h (Spool.accept_eq_ok_iff.mp haccept) rfl
  | spoolDeleted id =>
    exact forall_erase
      (P := fun id (spool : Spool α) => spool.id = some id ∧ spool.check = .ok ()) h id

/-- All spools in the store are of materials that have the property. -/
def Holds (s : Store α) (P : Profile α → Prop) : Prop :=
  ∀ (id : Nat) (spool : Spool α), s.spools[id]? = some spool → P spool.profile

omit [Scalar α] in
theorem holds_insert {s t : Store α} {P : Profile α → Prop} (h : s.Holds P) {id : Nat}
    {spool : Spool α} (hspool : P spool.profile)
    (ht : t.spools = s.spools.insert id { spool with id := some id }) : t.Holds P :=
  forall_insert (P := fun _ (spool : Spool α) => P spool.profile) h ht hspool

/-! ## Announced changes -/

/-- `t` was reached from `s` by changes whose messages all wait in the outbox. -/
structure Announced (s t : Store α) : Prop where
  sound : t.Sound
  tools : ∀ tool, t.selections.contains tool = s.selections.contains tool
  refresh : ∀ message ∈ t.outbox, message.requiresRefresh = true
  quiet : t.outbox = [] → t = s

theorem announced_refl {s : Store α} (h : s.Sound) (houtbox : s.outbox = []) : Announced s s := by
  refine ⟨h, fun _ => rfl, ?_, fun _ => rfl⟩
  rw [houtbox]
  exact List.forall_mem_nil _

theorem announced_announce {s t u : Store α} (h : Announced s t) {table action : String}
    (hsound : (u.announce table action).Sound)
    (htools : ∀ tool, u.selections.contains tool = t.selections.contains tool)
    (houtbox : u.outbox = t.outbox) : Announced s (u.announce table action) := by
  refine ⟨hsound, fun tool => (htools tool).trans (h.tools tool), ?_, ?_⟩
  · intro message hmessage
    have hmem : message ∈ t.outbox ++ [Message.dataChanged table action] := houtbox ▸ hmessage
    rcases List.mem_append.mp hmem with hold | hnew
    · exact h.refresh message hold
    · rw [List.mem_singleton.mp hnew]
      rfl
  · intro hempty
    exact absurd hempty (List.append_ne_nil_of_right_ne_nil _ (List.cons_ne_nil _ _))

theorem announced_change {s t : Store α} (h : Announced s t) (c : Change α) :
    Announced s (t.change c) := by
  have hsound : (t.change c).Sound := sound_change h.sound c
  have hchanged := t.change_changed c
  generalize t.change c = u at hchanged hsound ⊢
  cases hchanged with
  | refused => exact h
  | profileAdded | profileUpdated | profileDeleted | spoolAdded | spoolUpdated =>
    exact announced_announce h hsound (fun _ => rfl) rfl
  | spoolDeleted id =>
    exact announced_announce h hsound (fun _ => Std.TreeMap.contains_map) rfl

end

/-! ## Selections -/

/-- The selections as the store lists them. -/
def listed (s : Store α) : List (Selection α) :=
  s.selections.toList.map fun e => { tool := e.1, spool := s.resolve e.2 }

theorem nodup_listed (s : Store α) : (s.listed.map Selection.tool).Nodup := by
  have htools : s.listed.map Selection.tool = s.selections.keys := by
    rw [listed, List.map_map, ← Std.TreeMap.map_fst_toList_eq_keys]
    rfl
  rw [htools]
  exact Std.TreeMap.nodup_keys

theorem mem_listed_iff {s : Store α} {selection : Selection α} :
    selection ∈ s.listed ↔
      ∃ id, s.selections[selection.tool]? = some id ∧ selection.spool = s.resolve id := by
  unfold listed
  rw [List.mem_map]
  constructor
  · rintro ⟨⟨tool, id⟩, hmem, rfl⟩
    exact ⟨id, Std.TreeMap.mem_toList_iff_getElem?_eq_some.mp hmem, rfl⟩
  · rintro ⟨id, hid, hspool⟩
    refine ⟨(selection.tool, id), Std.TreeMap.mem_toList_iff_getElem?_eq_some.mpr hid, ?_⟩
    rw [← hspool]

theorem stored_of_listed {s : Store α} {selection : Selection α} (h : selection ∈ s.listed)
    {spool : Spool α} (hspool : selection.spool = some spool) :
    ∃ id, s.selections[selection.tool]? = some (some id) ∧ s.spools[id]? = some spool := by
  obtain ⟨entry, hentry, hresolve⟩ := mem_listed_iff.mp h
  rw [hspool] at hresolve
  obtain ⟨id, rfl, hstored⟩ := Option.bind_eq_some_iff.mp hresolve.symm
  exact ⟨id, hentry, hstored⟩

theorem run_updateSelection {s : Store α} {id : Option Nat}
    (h : ∀ i, id = some i → s.spools.contains i = true) (tool : Nat) :
    (updateSelection tool id).run s =
      (.ok { tool, spool := s.resolve id },
      { s with selections := s.selections.insert tool id }) := by
  unfold updateSelection
  rw [Action.run_bind, Action.run_get]
  cases id with
  | none => rfl
  | some i => simp [h i rfl, Action.run_map, Except.map]

theorem run_updateSelection_error {s : Store α} {i : Nat} (h : s.spools.contains i = false)
    (tool : Nat) : (updateSelection tool (some i)).run s = (.error (.backend (.noSpool i)), s) := by
  unfold updateSelection
  rw [Action.run_bind, Action.run_get]
  simp [h]

/-! ## Seeds -/

theorem seedId?_eq {s t : Store α} {own : Option Nat} {id : Nat}
    (h : s.seedId? own = some (id, t)) :
    (∃ next, t = { s with nextId := next }) ∧ ∀ i, own = some i → id = i := by
  cases own with
  | none => exact ⟨⟨_, allocate?_eq h⟩, fun i hi => by cases hi⟩
  | some i =>
    obtain ⟨rfl, rfl⟩ := Prod.mk.inj (Option.some.inj h)
    exact ⟨⟨_, rfl⟩, fun j hj => Option.some.inj hj⟩

theorem seedProfile_frame (s : Store α) (p : Profile α) :
    (s.seedProfile p).spools = s.spools ∧ (s.seedProfile p).selections = s.selections ∧
      (s.seedProfile p).outbox = s.outbox := by
  unfold seedProfile
  cases h : s.seedId? p.id with
  | none => exact ⟨rfl, rfl, rfl⟩
  | some entry =>
    obtain ⟨id, t⟩ := entry
    obtain ⟨⟨next, rfl⟩, -⟩ := seedId?_eq h
    exact ⟨rfl, rfl, rfl⟩

theorem seedSpool_frame (s : Store α) {spool : Spool α} {id : Nat} (hid : spool.id = some id) :
    (s.seedSpool spool).spools = s.spools.insert id { spool with id := some id } ∧
      (s.seedSpool spool).selections = s.selections ∧ (s.seedSpool spool).outbox = s.outbox := by
  unfold seedSpool
  rw [hid]
  exact ⟨rfl, rfl, rfl⟩

theorem seedProfiles_frame (s : Store α) (profiles : List (Profile α)) :
    (profiles.foldl seedProfile s).spools = s.spools ∧
      (profiles.foldl seedProfile s).selections = s.selections ∧
      (profiles.foldl seedProfile s).outbox = s.outbox := by
  induction profiles generalizing s with
  | nil => exact ⟨rfl, rfl, rfl⟩
  | cons p rest ih =>
    obtain ⟨hspools, hselections, houtbox⟩ := s.seedProfile_frame p
    obtain ⟨hspools', hselections', houtbox'⟩ := ih (s.seedProfile p)
    exact ⟨hspools'.trans hspools, hselections'.trans hselections, houtbox'.trans houtbox⟩

theorem holds_seedSpools {P : Profile α → Prop} {spools : List (Spool α)}
    (h : ∀ spool ∈ spools, P spool.profile) {s : Store α} (hs : s.Holds P) :
    (spools.foldl seedSpool s).Holds P := by
  induction spools generalizing s with
  | nil => exact hs
  | cons first rest ih =>
    refine ih (fun spool hspool => h spool (List.mem_cons_of_mem first hspool)) ?_
    unfold seedSpool
    cases hid : s.seedId? first.id with
    | none => exact hs
    | some entry =>
      obtain ⟨id, t⟩ := entry
      obtain ⟨⟨next, rfl⟩, -⟩ := seedId?_eq hid
      exact holds_insert hs (h first List.mem_cons_self) rfl

theorem ofSeeds_holds {P : Profile α → Prop} {spools : List (Spool α)}
    (h : ∀ spool ∈ spools, P spool.profile) (profiles : List (Profile α)) :
    (ofSeeds profiles spools).Holds P := by
  obtain ⟨hspools, -, -⟩ := (empty : Store α).seedProfiles_frame profiles
  refine holds_seedSpools h ?_
  intro id spool hspool
  rw [hspools, empty, Std.TreeMap.getElem?_emptyc] at hspool
  cases hspool

variable [Scalar α]

theorem sound_seedSpools {spools : List (Spool α)}
    (h : ∀ spool ∈ spools, spool.check = .ok () ∧ spool.id.isSome = true) {s : Store α}
    (hs : s.Sound) :
    (spools.foldl seedSpool s).Sound ∧
      (spools.foldl seedSpool s).selections = s.selections ∧
      (spools.foldl seedSpool s).outbox = s.outbox ∧
      ∀ id, s.spools.contains id = true ∨ (∃ spool ∈ spools, spool.id = some id) →
        (spools.foldl seedSpool s).spools.contains id = true := by
  induction spools generalizing s with
  | nil =>
    refine ⟨hs, rfl, rfl, fun id hid => ?_⟩
    rcases hid with hid | ⟨spool, hspool, -⟩
    · exact hid
    · cases hspool
  | cons first rest ih =>
    obtain ⟨hcheck, hown⟩ := h first List.mem_cons_self
    obtain ⟨own, hid⟩ := Option.isSome_iff_exists.mp hown
    obtain ⟨hspools, hselections, houtbox⟩ := s.seedSpool_frame hid
    obtain ⟨hsound, hselections', houtbox', hcontains⟩ :=
      ih (fun spool hspool => h spool (List.mem_cons_of_mem first hspool))
        (sound_insert hs hcheck hspools)
    refine ⟨hsound, hselections'.trans hselections, houtbox'.trans houtbox, fun id hcase => ?_⟩
    refine hcontains id ?_
    rw [hspools, Std.TreeMap.contains_insert]
    rcases hcase with hbefore | ⟨spool, hspool, hspoolId⟩
    · exact Or.inl (by rw [hbefore, Bool.or_true])
    · rcases List.mem_cons.mp hspool with rfl | hrest
      · left
        obtain rfl := Option.some.inj (hid.symm.trans hspoolId)
        simp
      · exact Or.inr ⟨spool, hrest, hspoolId⟩

theorem ofSeeds_sound {spools : List (Spool α)}
    (h : ∀ spool ∈ spools, spool.check = .ok () ∧ spool.id.isSome = true)
    (profiles : List (Profile α)) :
    (ofSeeds profiles spools).Sound ∧ (ofSeeds profiles spools).selections = ∅ ∧
      (ofSeeds profiles spools).outbox = [] ∧
      ∀ spool ∈ spools, ∀ id, spool.id = some id →
        (ofSeeds profiles spools).spools.contains id = true := by
  obtain ⟨hspools, hselections, houtbox⟩ := (empty : Store α).seedProfiles_frame profiles
  have hsound : (profiles.foldl seedProfile (empty : Store α)).Sound := by
    intro id spool hspool
    rw [hspools] at hspool
    rw [empty, Std.TreeMap.getElem?_emptyc] at hspool
    cases hspool
  obtain ⟨hsound', hselections', houtbox', hcontains⟩ := sound_seedSpools h hsound
  refine ⟨hsound', hselections'.trans hselections, houtbox'.trans houtbox, ?_⟩
  exact fun spool hspool id hid => hcontains id (Or.inr ⟨spool, hspool, hid⟩)

end Store

/-! ## Sending -/

section

variable [Scalar α]

theorem Store.contains_updateSpool {t : Store α} {other : Nat} (h : t.spools.contains other = true)
    (id : Nat) (spool : Spool α) :
    (t.change (.updateSpool id spool)).spools.contains other = true := by
  have hchanged := t.change_changed (.updateSpool id spool)
  generalize t.change (.updateSpool id spool) = u at hchanged ⊢
  cases hchanged with
  | refused => exact h
  | spoolUpdated _ _ _ hstored =>
    rw [contains_replaced hstored]
    exact h

theorem Store.selections_updateSpool (t : Store α) (id : Nat) (spool : Spool α) :
    (t.change (.updateSpool id spool)).selections = t.selections := by
  have hchanged := t.change_changed (.updateSpool id spool)
  generalize t.change (.updateSpool id spool) = u at hchanged ⊢
  cases hchanged <;> rfl

theorem Store.holds_updateSpool {P : Profile α → Prop} {t : Store α} (h : t.Holds P) (id : Nat)
    {spool : Spool α} (hspool : P spool.profile) : (t.change (.updateSpool id spool)).Holds P := by
  have hchanged := t.change_changed (.updateSpool id spool)
  generalize t.change (.updateSpool id spool) = u at hchanged ⊢
  cases hchanged with
  | refused => exact h
  | spoolUpdated => exact holds_insert h hspool rfl

namespace Usage

/-- Sending spools asks the store to replace them, one after the other. -/
theorem sendAll_induction {P : Store α → Prop} {usage : List (Usage α)}
    (hupdate : ∀ u ∈ usage, ∀ t id, u.spool.id = some id → P t →
    P (t.change (.updateSpool id u.spool)))
    {t : Store α} (ht : P t) : P ((sendAll usage).run t).2 := by
  have hsend : ∀ u ∈ usage, ∀ t, P t → P (StateT.run (m := Id) (send u) t).2 := by
    intro u hu t ht
    cases hid : u.spool.id with
    | none =>
      rw [run_send_none hid]
      exact ht
    | some id =>
      rw [run_send_some hid]
      exact hupdate u hu t id hid ht
  show P (StateT.run (m := Id) (usage.mapM send) t).2
  clear hupdate
  induction usage generalizing t with
  | nil => exact ht
  | cons u rest ih =>
    rw [mapM_send_cons]
    exact ih (hsend u List.mem_cons_self t ht) fun v hv => hsend v (List.mem_cons_of_mem u hv)

theorem announced_sendAll {s t : Store α} (h : s.Announced t) (usage : List (Usage α)) :
    s.Announced ((sendAll usage).run t).2 :=
  sendAll_induction (P := s.Announced)
    (fun u _ _ id _ ht => Store.announced_change ht (.updateSpool id u.spool)) h

theorem contains_sendAll {t : Store α} {id : Nat} (h : t.spools.contains id = true)
    (usage : List (Usage α)) : ((sendAll usage).run t).2.spools.contains id = true :=
  sendAll_induction (P := fun t => t.spools.contains id = true)
    (fun u _ _ other _ ht => Store.contains_updateSpool ht other u.spool) h

theorem selections_sendAll (t : Store α) (usage : List (Usage α)) :
    ((sendAll usage).run t).2.selections = t.selections :=
  sendAll_induction (P := fun after => after.selections = t.selections)
    (fun u _ after id _ h => (after.selections_updateSpool id u.spool).trans h) rfl

theorem holds_sendAll {P : Profile α → Prop} {t : Store α} (h : t.Holds P) {usage : List (Usage α)}
    (husage : ∀ u ∈ usage, P u.spool.profile) : ((sendAll usage).run t).2.Holds P :=
  sendAll_induction (P := fun t => t.Holds P)
    (fun u hu _ id _ ht => Store.holds_updateSpool ht id (husage u hu)) h

end Usage

end

end Filament
