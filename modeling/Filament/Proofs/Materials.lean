import Mathlib.Data.List.Induction
import Filament.Proofs.Double
import Filament.Proofs.StoreIds

/-!
The materials in the spools of the store.

A material is stored in its table and again in every spool that is made of it. The store is intact
while the two agree. Replacing a material replaces it in its spools, and one that is in use is not
deleted, but a spool is taken with the material that it is sent with. The store therefore stays
intact exactly as long as every spool that it takes is sent with its material as stored
(`Store.intact_iff_taken_refer`).
-/

namespace Filament
namespace Store

section

variable {α : Type} [Scalar α]

/-- The material of the spool is a stored one, in content too. -/
def Refers (s : Store α) (spool : Spool α) : Prop :=
  ∃ id p, spool.profile.id = some id ∧ s.profiles[id]? = some p ∧ (spool.profile == p) = true

/-- Every stored spool is of a stored material. -/
def Intact (s : Store α) : Prop :=
  ∀ (id : Nat) (spool : Spool α), s.spools[id]? = some spool → s.Refers spool

/-- The spool that a change puts into the store, if the store takes it. -/
def taken? (s : Store α) : Change α → Option (Spool α)
  | .addSpool spool => ((addSpool spool).run s).1.toOption
  | .updateSpool id spool => ((updateSpool id spool).run s).1.toOption
  | _ => none

theorem refers_congr {s t : Store α} {spool : Spool α} (hprofiles : t.profiles = s.profiles) :
    t.Refers spool ↔ s.Refers spool := by
  unfold Refers
  rw [hprofiles]

/-- A spool that is taken is stored as it was sent, and no material changes. -/
theorem change_of_taken {s : Store α} {c : Change α} {spool : Spool α}
    (h : s.taken? c = some spool) :
    (s.change c).profiles = s.profiles ∧
      ∃ id, (s.change c).spools = s.spools.insert id spool := by
  cases c with
  | addSpool sent =>
    simp only [taken?, change] at h ⊢
    rcases s.addSpool_cases sent with ⟨e, hrun⟩ | ⟨id, -, -, hrun⟩
    · rw [hrun] at h
      cases h
    · rw [hrun] at h ⊢
      obtain rfl := Option.some.inj h
      exact ⟨rfl, id, rfl⟩
  | updateSpool id sent =>
    simp only [taken?, change] at h ⊢
    rcases s.updateSpool_cases id sent with ⟨e, hrun⟩ | ⟨-, -, hrun⟩
    · rw [hrun] at h
      cases h
    · rw [hrun] at h ⊢
      obtain rfl := Option.some.inj h
      exact ⟨rfl, id, rfl⟩
  | _ => cases h

theorem refers_of_taken {s : Store α} {c : Change α} {spool : Spool α}
    (h : s.taken? c = some spool) (hintact : (s.change c).Intact) : s.Refers spool := by
  obtain ⟨hprofiles, id, hspools⟩ := change_of_taken h
  have hstored : (s.change c).spools[id]? = some spool := by
    rw [hspools]
    exact Std.TreeMap.getElem?_insert_self
  exact (refers_congr hprofiles).mp (hintact id spool hstored)

theorem intact_of_taken {s : Store α} (hs : s.Intact) {c : Change α} {spool : Spool α}
    (h : s.taken? c = some spool) (hrefers : s.Refers spool) : (s.change c).Intact := by
  obtain ⟨hprofiles, id, hspools⟩ := change_of_taken h
  intro other stored hstored
  rw [refers_congr hprofiles]
  exact forall_insert (P := fun _ spool => s.Refers spool) hs hspools hrefers other stored hstored

end

/-! ## Materials -/

section

variable {α : Type} [Scalar α] {s : Store α}

/-- The id of a new material is that of no other. -/
theorem intact_insertProfile (h : s.Intact) {id : Nat} (hid : s.profiles.contains id = false)
    (p : Profile α) {t : Store α} (hspools : t.spools = s.spools)
    (hprofiles : t.profiles = s.profiles.insert id p) : t.Intact := by
  intro other spool hspool
  rw [hspools] at hspool
  obtain ⟨own, stored, hown, hstored, hbeq⟩ := h other spool hspool
  refine ⟨own, stored, hown, ?_, hbeq⟩
  have hne : compare id own ≠ .eq := by
    intro hcompare
    obtain rfl := Nat.compare_eq_eq.mp hcompare
    rw [Std.TreeMap.contains_eq_isSome_getElem?, hstored] at hid
    cases hid
  rw [hprofiles, Std.TreeMap.getElem?_insert, if_neg hne]
  exact hstored

omit [Scalar α] in
theorem mem_values {γ : Type} {table : Std.TreeMap Nat γ} {id : Nat} {entry : γ}
    (h : table[id]? = some entry) : entry ∈ table.values := by
  have hvalues : table.values = table.toList.map Prod.snd := by
    have hfold : table.values = table.foldr (fun _ entry rest => entry :: rest) [] := rfl
    rw [hfold, Std.TreeMap.foldr_eq_foldr_toList, List.map_eq_foldr]
  rw [hvalues]
  exact List.mem_map.mpr ⟨(id, entry), Std.TreeMap.mem_toList_iff_getElem?_eq_some.mpr h, rfl⟩

theorem intact_eraseProfile (h : s.Intact) {id : Nat}
    (hunused : (s.spools.values.any fun spool => spool.profile.id == some id) = false)
    {t : Store α} (hspools : t.spools = s.spools) (hprofiles : t.profiles = s.profiles.erase id) :
    t.Intact := by
  intro other spool hspool
  rw [hspools] at hspool
  obtain ⟨own, stored, hown, hstored, hbeq⟩ := h other spool hspool
  refine ⟨own, stored, hown, ?_, hbeq⟩
  have hne : compare id own ≠ .eq := by
    intro hcompare
    obtain rfl := Nat.compare_eq_eq.mp hcompare
    have hused := List.any_eq_false.mp hunused spool (mem_values hspool)
    exact hused (by rw [hown]; exact beq_self_eq_true _)
  rw [hprofiles, Std.TreeMap.getElem?_erase, if_neg hne]
  exact hstored

/-- A material that is replaced is replaced in its spools. -/
theorem intact_remade (h : s.Intact) {id : Nat} {p : Profile α}
    (hself : (({ p with id := some id } : Profile α) == { p with id := some id }) = true)
    {t : Store α} (hspools : t.spools = s.spools.map fun _ spool => spool.remade id p)
    (hprofiles : t.profiles = s.profiles.insert id { p with id := some id }) : t.Intact := by
  intro other stored hstored
  rw [hspools] at hstored
  obtain ⟨spool, hspool, rfl⟩ := getElem?_map_eq_some hstored
  obtain ⟨own, q, hown, hq, hbeq⟩ := h other spool hspool
  by_cases hid : own = id
  · subst hid
    have hremade : spool.remade own p = { spool with profile := { p with id := some own } } :=
      if_pos (by rw [hown]; exact beq_self_eq_true _)
    refine ⟨own, { p with id := some own }, ?_, ?_, ?_⟩
    · rw [hremade]
    · rw [hprofiles]
      exact Std.TreeMap.getElem?_insert_self
    · rw [hremade]
      exact hself
  · have hremade : spool.remade id p = spool :=
      if_neg (by rw [hown, beq_iff_eq, Option.some.injEq]; exact hid)
    refine ⟨own, q, ?_, ?_, ?_⟩
    · rw [hremade]
      exact hown
    · have hne : compare id own ≠ .eq := fun hcompare => hid (Nat.compare_eq_eq.mp hcompare).symm
      rw [hprofiles, Std.TreeMap.getElem?_insert, if_neg hne]
      exact hq
    · rw [hremade]
      exact hbeq

theorem intact_eraseSpool (h : s.Intact) (id : Nat) {t : Store α}
    (hspools : t.spools = s.spools.erase id) (hprofiles : t.profiles = s.profiles) : t.Intact := by
  intro other spool hspool
  rw [hspools] at hspool
  rw [refers_congr hprofiles]
  exact forall_erase (P := fun _ spool => s.Refers spool) h id other spool hspool

end

/-! ## Runs -/

variable {s : Store Float}

theorem intact_change (hs : s.Intact) (hnumbered : s.Numbered) {c : Change Float}
    (htaken : ∀ spool, s.taken? c = some spool → s.Refers spool) : (s.change c).Intact := by
  cases hspool : s.taken? c with
  | some spool => exact intact_of_taken hs hspool (htaken spool hspool)
  | none =>
    have hchanged := s.change_changed c
    generalize s.change c = t at hchanged ⊢
    cases hchanged with
    | refused => exact hs
    | profileAdded p id haccept hid =>
      refine intact_insertProfile hs (Bool.eq_false_iff.mpr fun hused => ?_) _ rfl rfl
      obtain ⟨hle, hlt⟩ := allocate?_bounds hid
      rcases hnumbered.spent id (Or.inl hused) with hpassed | hend
      · omega
      · omega
    | profileUpdated id p haccept hstored =>
      obtain ⟨hdensity, hdiameter⟩ := Profile.measures_of_accept haccept
      have hself : ∀ id, (({ p with id } : Profile Float) == { p with id }) = true := fun id =>
        Profile.beq_self (isFinite_of_checkPositive hdensity) (isFinite_of_checkPositive hdiameter)
      exact intact_remade hs (hself _) rfl rfl
    | profileDeleted id hunused => exact intact_eraseProfile hs hunused rfl rfl
    | spoolAdded spool id haccept hid =>
      simp only [taken?, run_addSpool haccept, hid] at hspool
      cases hspool
    | spoolUpdated id spool haccept hstored =>
      simp only [taken?, run_updateSpool haccept hstored] at hspool
      cases hspool
    | spoolDeleted id => exact intact_eraseSpool hs id rfl rfl

theorem intact_operate (hs : s.Intact) (hnumbered : s.Numbered) {op : Operation Float}
    (htaken : ∀ c spool, op = .change c → s.taken? c = some spool → s.Refers spool) :
    (s.operate op).Intact := by
  cases op with
  | change c => exact intact_change hs hnumbered fun spool => htaken c spool rfl
  | select tool id =>
    rcases s.operate_select tool id with hsame | ⟨-, hselect⟩
    · rw [hsame]
      exact hs
    · rw [hselect]
      exact hs
  | listProfiles | listSpools | listSelections | drain => exact hs

theorem after_snoc {α : Type} [Scalar α] (s : Store α) (now : List (Operation α))
    (op : Operation α) : s.after (now ++ [op]) = (s.after now).operate op := after_append s now [op]

/-- Whatever the store was filled with at first and was asked for since, it stays intact through
further calls exactly if it is intact now and every spool that it takes is sent with its material as
that is stored at the time. -/
theorem intact_iff_taken_refer (profiles : List (Profile Float)) (spools : List (Spool Float))
    (earlier ops : List (Operation Float)) :
    let s := (ofSeeds profiles spools).after earlier
    (∀ now, now <+: ops → (s.after now).Intact) ↔
      s.Intact ∧ ∀ now c spool, now ++ [.change c] <+: ops →
        (s.after now).taken? c = some spool → (s.after now).Refers spool := by
  intro s
  have hnumbered : s.Numbered := (numbered_after (numbered_ofSeeds profiles spools) earlier).1
  constructor
  · intro hintact
    refine ⟨hintact [] List.nil_prefix, fun now c spool hnow htaken => ?_⟩
    have hnext := hintact _ hnow
    rw [after_snoc] at hnext
    exact refers_of_taken htaken hnext
  · rintro ⟨hs, hrefer⟩ now
    induction now using List.reverseRecOn with
    | nil => exact fun _ => hs
    | append_singleton now op ih =>
      intro hnow
      rw [after_snoc]
      refine intact_operate (ih ((List.prefix_append now [op]).trans hnow))
        (numbered_after hnumbered now).1 fun c spool hc htaken => ?_
      subst hc
      exact hrefer now c spool hnow htaken

/-! ## A spool sent with another material -/

/-- A material and a spool of it. -/
def acme : Profile Float where
  id := some 1
  vendor := "Acme"
  material := "PLA"
  density := 1.25
  diameter := 1.75

def black : Spool Float where
  id := some 1
  name := "Black"
  profile := acme
  cost := 20
  weight := 1000
  used := 0
  tempOffset := 0

/-- The spool as a client may send it, with another density in its material. -/
def denser : Spool Float := { black with profile := { acme with density := 7 } }

theorem acme_intact : (ofSeeds [acme] [black]).Intact := by
  intro id spool hspool
  have hspools : (ofSeeds [acme] [black]).spools =
      (∅ : Std.TreeMap Nat (Spool Float)).insert 1 black :=
    rfl
  rw [hspools] at hspool
  refine forall_insert (P := fun _ spool => (ofSeeds [acme] [black]).Refers spool) ?_ rfl ?_ id
    spool hspool
  · intro other stored hstored
    rw [Std.TreeMap.getElem?_emptyc] at hstored
    cases hstored
  · exact ⟨1, acme, rfl, rfl, by decide +kernel⟩

theorem taken_denser : (ofSeeds [acme] [black]).taken? (.updateSpool 1 denser) = some denser := by
  have haccept : denser.accept = .ok () := eq_ok_of_toBool (by decide +kernel)
  rw [taken?, run_updateSpool haccept rfl]
  rfl

/-- An intact store takes a spool with a material that is not the stored one, and is intact no
more. -/
theorem update_breaks_material :
    (ofSeeds [acme] [black]).Intact ∧
      (ofSeeds [acme] [black]).taken? (.updateSpool 1 denser) = some denser ∧
      ¬((ofSeeds [acme] [black]).change (.updateSpool 1 denser)).Intact := by
  refine ⟨acme_intact, taken_denser, fun hintact => ?_⟩
  obtain ⟨id, p, hid, hp, hbeq⟩ := refers_of_taken taken_denser hintact
  obtain rfl : 1 = id := Option.some.inj hid
  obtain rfl : acme = p := Option.some.inj hp
  exact absurd hbeq (by decide +kernel)

end Store
end Filament
