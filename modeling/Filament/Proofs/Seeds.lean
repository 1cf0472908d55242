import Mathlib.Data.List.Nodup
import Filament.Proofs.StoreIds

/-!
The seeds of the store.

A seed keeps its own id, and one that has none gets one more than the largest id before it
(`Store.numbers`). No seed before it has that id, but one behind it may, and replaces it then. All
seeds of a table are therefore kept exactly if no seed without an id gets that of a later one
(`Store.seeds_kept_iff`).
-/

namespace Filament
namespace Store

/-! ## Numbers -/

/-- The ids that seeds get, by those that they have of their own, if `largest` is the largest id
before them. -/
def numbers (largest : Nat) : List (Option Nat) → List Nat
  | [] => []
  | own :: rest => own.getD (largest + 1) :: numbers (max largest (own.getD (largest + 1))) rest

/-- The largest id when seeds were numbered. -/
def top (largest : Nat) (owns : List (Option Nat)) : Nat := (numbers largest owns).foldl max largest

/-- Every seed without an id gets one below the largest word, so there are ids left for all of
them. -/
def IdsLeft (largest : Nat) (owns : List (Option Nat)) : Prop :=
  ∀ e ∈ owns.zip (numbers largest owns), e.1 = none → e.2 < Text.maxWord

instance (largest : Nat) (owns : List (Option Nat)) : Decidable (IdsLeft largest owns) :=
  inferInstanceAs
    (Decidable (∀ e ∈ owns.zip (numbers largest owns), e.1 = none → e.2 < Text.maxWord))

/-- A seed without an id gets the one that a later seed has. -/
def Clashes (largest : Nat) (owns : List (Option Nat)) : Prop :=
  ∃ i j id : Nat, i < j ∧ owns[i]? = some none ∧ (numbers largest owns)[i]? = some id ∧
    owns[j]? = some (some id)

section

variable {largest : Nat} {owns : List (Option Nat)}

theorem length_numbers (largest : Nat) (owns : List (Option Nat)) :
    (numbers largest owns).length = owns.length := by
  induction owns generalizing largest with
  | nil => rfl
  | cons own rest ih => exact congrArg Nat.succ (ih _)

theorem numbers_append (largest : Nat) (owns later : List (Option Nat)) :
    numbers largest (owns ++ later) = numbers largest owns ++ numbers (top largest owns) later := by
  induction owns generalizing largest with
  | nil => rfl
  | cons own rest ih => exact congrArg _ (ih _)

theorem idsLeft_cons {own : Option Nat} :
    IdsLeft largest (own :: owns) ↔ (own = none → largest + 1 < Text.maxWord) ∧
      IdsLeft (max largest (own.getD (largest + 1))) owns := by
  unfold IdsLeft
  rw [numbers, List.zip_cons_cons, List.forall_mem_cons]
  refine and_congr_left fun _ => forall_congr' fun hnone => ?_
  obtain rfl : own = none := hnone
  rfl

theorem idsLeft_append {later : List (Option Nat)} :
    IdsLeft largest (owns ++ later) ↔ IdsLeft largest owns ∧ IdsLeft (top largest owns) later := by
  unfold IdsLeft
  rw [numbers_append, List.zip_append (length_numbers largest owns).symm, List.forall_mem_append]

theorem idsLeft_of_own (h : ∀ own ∈ owns, own.isSome = true) : IdsLeft largest owns := by
  intro e he hnone
  have hown := h e.1 (List.of_mem_zip he).1
  rw [hnone] at hown
  cases hown

theorem numbers_of_own {i id : Nat} (h : owns[i]? = some (some id)) :
    (numbers largest owns)[i]? = some id := by
  induction owns generalizing largest i with
  | nil => cases h
  | cons own rest ih =>
    cases i with
    | zero =>
      obtain rfl : own = some id := Option.some.inj h
      rfl
    | succ i => exact ih h

/-- A seed without an id gets a larger one than there was before. -/
theorem lt_number {i id : Nat} (hown : owns[i]? = some none)
    (hid : (numbers largest owns)[i]? = some id) : largest < id := by
  induction owns generalizing largest i with
  | nil => cases hown
  | cons own rest ih =>
    cases i with
    | zero =>
      obtain rfl : own = none := Option.some.inj hown
      obtain rfl : largest + 1 = id := Option.some.inj hid
      exact Nat.lt_succ_self largest
    | succ i => exact Nat.lt_of_le_of_lt (Nat.le_max_left _ _) (ih hown hid)

theorem number_lt_number {i j before id : Nat} (hlt : i < j)
    (hbefore : (numbers largest owns)[i]? = some before) (hown : owns[j]? = some none)
    (hid : (numbers largest owns)[j]? = some id) : before < id := by
  induction owns generalizing largest i j with
  | nil => cases hown
  | cons own rest ih =>
    cases j with
    | zero => cases hlt
    | succ j =>
      cases i with
      | zero =>
        obtain rfl : own.getD (largest + 1) = before := Option.some.inj hbefore
        have hrest : rest[j]? = some none := hown
        exact Nat.lt_of_le_of_lt (Nat.le_max_right _ _) (lt_number hrest hid)
      | succ i => exact ih (Nat.lt_of_succ_lt_succ hlt) hbefore hown hid

/-- If the own ids of seeds differ, two seeds get the same one only by a clash. -/
theorem nodup_numbers_iff (hdistinct : (owns.filterMap id).Nodup) :
    (numbers largest owns).Nodup ↔ ¬Clashes largest owns := by
  rw [List.nodup_iff_getElem?_ne_getElem?]
  constructor
  · rintro hdiffer ⟨i, j, id, hlt, -, hid, hown⟩
    have hj : (numbers largest owns)[j]? = some id := numbers_of_own hown
    exact hdiffer i j hlt (List.getElem?_eq_some_iff.mp hj).1 (hid.trans hj.symm)
  · intro hclash i j hlt hj hsame
    rw [List.getElem?_eq_getElem hj] at hsame
    have hid := List.getElem?_eq_getElem hj
    generalize (numbers largest owns)[j] = id at hsame hid
    rw [length_numbers] at hj
    cases hownj : owns[j] with
    | none =>
      have hown : owns[j]? = some none := by rw [List.getElem?_eq_getElem hj, hownj]
      exact absurd (number_lt_number hlt hsame hown hid) (Nat.lt_irrefl id)
    | some other =>
      have hown : owns[j]? = some (some other) := by rw [List.getElem?_eq_getElem hj, hownj]
      obtain rfl : other = id := Option.some.inj ((numbers_of_own hown).symm.trans hid)
      have hi : i < owns.length := Nat.lt_trans hlt hj
      cases howni : owns[i] with
      | none =>
        have hnone : owns[i]? = some none := by rw [List.getElem?_eq_getElem hi, howni]
        exact hclash ⟨i, j, other, hlt, hnone, hsame, hown⟩
      | some same =>
        have hsome : owns[i]? = some (some same) := by rw [List.getElem?_eq_getElem hi, howni]
        obtain rfl : same = other := Option.some.inj ((numbers_of_own hsome).symm.trans hsame)
        have hpairs := List.pairwise_iff_getElem.mp (List.pairwise_filterMap.mp hdistinct)
        exact hpairs i j hi hj hlt same howni same hownj rfl

end

/-! ## Tables -/

section

variable {α γ : Type}

/-- A table of the store, with the way in which a seed gets into it. -/
structure Table (α γ : Type) where
  own : γ → Option Nat
  numbered : Nat → γ → γ
  entries : Store α → Std.TreeMap Nat γ
  seed : Store α → γ → Store α
  numbered_own : ∀ {x id}, own x = some id → numbered id x = x
  entries_seed : ∀ {s x id t}, s.seedId? (own x) = some (id, t) →
    entries (seed s x) = (entries s).insert id (numbered id x)
  nextId_seed : ∀ {s x id t}, s.seedId? (own x) = some (id, t) → (seed s x).nextId = t.nextId

def profileTable : Table α (Profile α) where
  own := Profile.id
  numbered id p := { p with id := some id }
  entries := profiles
  seed := seedProfile
  numbered_own {x id} h := by rw [← h]
  entries_seed {s x id t} h := by
    obtain ⟨⟨next, rfl⟩, -⟩ := seedId?_eq h
    rw [seedProfile, h]
  nextId_seed {s x id t} h := by rw [seedProfile, h]

def spoolTable : Table α (Spool α) where
  own := Spool.id
  numbered id spool := { spool with id := some id }
  entries := spools
  seed := seedSpool
  numbered_own {x id} h := by rw [← h]
  entries_seed {s x id t} h := by
    obtain ⟨⟨next, rfl⟩, -⟩ := seedId?_eq h
    rw [seedSpool, h]
  nextId_seed {s x id t} h := by rw [seedSpool, h]

/-- The counter of ids stands above `largest`, or at its end. -/
def Counts (s : Store α) (largest : Nat) : Prop := max s.nextId 1 = min (largest + 1) Text.maxWord

theorem counts_empty : (empty : Store α).Counts 0 := by
  show max 0 1 = min (0 + 1) Text.maxWord
  decide

theorem counts_own {next largest id last : Nat} (h : max next 1 = min (largest + 1) last)
    (hlast : 1 < last) :
    max (max next (min (id + 1) last)) 1 = min (max largest id + 1) last := by
  omega

theorem counts_new {largest last : Nat} (h : largest + 1 < last) :
    max (largest + 2) 1 = min (max largest (largest + 1) + 1) last := by
  omega

theorem seedId?_of_counts {s : Store α} {largest : Nat} (h : s.Counts largest) {own : Option Nat}
    (hleft : own = none → largest + 1 < Text.maxWord) :
    ∃ t, s.seedId? own = some (own.getD (largest + 1), t) ∧
      t.Counts (max largest (own.getD (largest + 1))) := by
  cases own with
  | some id => exact ⟨_, rfl, counts_own h (by decide)⟩
  | none =>
    have hid : max s.nextId 1 = largest + 1 := h.trans (Nat.min_eq_left (hleft rfl).le)
    refine ⟨{ s with nextId := largest + 2 }, ?_, counts_new (hleft rfl)⟩
    show s.allocate? = some (largest + 1, { s with nextId := largest + 2 })
    unfold allocate?
    rw [hid]
    exact if_pos (hleft rfl)

namespace Table

variable (T : Table α γ)

/-- The seeds with the ids that they get. -/
def given (largest : Nat) (seeds : List γ) : List (Nat × γ) :=
  ((numbers largest (seeds.map T.own)).zip seeds).map fun e => (e.1, T.numbered e.1 e.2)

/-- Every seed is stored under an id that no other one has, and under its own if it has one. -/
def Keeps (s : Store α) (seeds : List γ) : Prop :=
  ∃ ids : List Nat, ids.length = seeds.length ∧ ids.Nodup ∧
    ∀ (i : Nat) x id, seeds[i]? = some x → ids[i]? = some id →
      (∀ own, T.own x = some own → id = own) ∧ (T.entries s)[id]? = some (T.numbered id x)

theorem seeded {s : Store α} {largest : Nat} (h : s.Counts largest) {seeds : List γ}
    (hleft : IdsLeft largest (seeds.map T.own)) :
    T.entries (seeds.foldl T.seed s) = (T.entries s).insertMany (T.given largest seeds) ∧
      (seeds.foldl T.seed s).Counts (top largest (seeds.map T.own)) := by
  induction seeds generalizing s largest with
  | nil => exact ⟨Std.TreeMap.insertMany_nil.symm, h⟩
  | cons x rest ih =>
    rw [List.map_cons, idsLeft_cons] at hleft
    obtain ⟨hx, hrest⟩ := hleft
    obtain ⟨t, hid, hcounts⟩ := seedId?_of_counts h hx
    have hnext : (T.seed s x).Counts (max largest ((T.own x).getD (largest + 1))) := by
      unfold Counts at hcounts ⊢
      rw [T.nextId_seed hid]
      exact hcounts
    obtain ⟨hentries, hafter⟩ := ih hnext hrest
    refine ⟨?_, hafter⟩
    rw [List.foldl_cons, hentries, T.entries_seed hid]
    exact Std.TreeMap.insertMany_cons.symm

theorem fst_given (largest : Nat) (seeds : List γ) :
    (T.given largest seeds).map Prod.fst = numbers largest (seeds.map T.own) := by
  have hlength : (numbers largest (seeds.map T.own)).length ≤ seeds.length := by
    rw [length_numbers, List.length_map]
  rw [given, List.map_map]
  exact List.map_fst_zip hlength

theorem getElem?_filled_iff {entries : List (Nat × γ)} (h : (entries.map Prod.fst).Nodup) {id : Nat}
    {x : γ} : ((∅ : Std.TreeMap Nat γ).insertMany entries)[id]? = some x ↔ (id, x) ∈ entries := by
  have hdistinct : entries.Pairwise fun a b => ¬compare a.1 b.1 = .eq := by
    refine (List.pairwise_map.mp h).imp fun hne => ?_
    rw [Nat.compare_eq_eq]
    exact hne
  have hstored : ∀ {y}, (id, y) ∈ entries →
      ((∅ : Std.TreeMap Nat γ).insertMany entries)[id]? = some y := fun hy =>
    Std.TreeMap.getElem?_insertMany_list_of_mem (Nat.compare_eq_eq.mpr rfl) hdistinct hy
  refine ⟨fun hx => ?_, hstored⟩
  cases hkey : (entries.map Prod.fst).contains id with
  | false =>
    rw [Std.TreeMap.getElem?_insertMany_list_of_contains_eq_false hkey,
      Std.TreeMap.getElem?_emptyc] at hx
    cases hx
  | true =>
    obtain ⟨⟨other, y⟩, hy, rfl⟩ := List.mem_map.mp (List.contains_iff_mem.mp hkey)
    obtain rfl : y = x := Option.some.inj ((hstored hy).symm.trans hx)
    exact hy

variable {T} {s : Store α} {largest : Nat} {seeds : List γ}

theorem given_of_own (h : ∀ x ∈ seeds, (T.own x).isSome = true) :
    T.given largest seeds = seeds.filterMap fun x => (T.own x).map fun id => (id, x) := by
  induction seeds generalizing largest with
  | nil => rfl
  | cons x rest ih =>
    rw [List.forall_mem_cons] at h
    obtain ⟨id, hid⟩ := Option.isSome_iff_exists.mp h.1
    have hx : (T.own x).map (fun id => (id, x)) = some (id, x) := by
      rw [hid]
      rfl
    have hgiven : T.given largest (x :: rest) = (id, x) :: T.given (max largest id) rest := by
      unfold given
      rw [List.map_cons, numbers, hid, Option.getD_some, List.zip_cons_cons, List.map_cons,
        T.numbered_own hid]
    rw [hgiven, ih h.2, List.filterMap_cons, hx]

/-- Seeds that all have ids, no two the same, are stored under these, and nothing else is. -/
theorem stored_iff_of_own
    (hs : T.entries s = (∅ : Std.TreeMap Nat γ).insertMany (T.given largest seeds))
    (hown : ∀ x ∈ seeds, (T.own x).isSome = true) (hdistinct : (seeds.filterMap T.own).Nodup)
    {id : Nat} {x : γ} : (T.entries s)[id]? = some x ↔ x ∈ seeds ∧ T.own x = some id := by
  have hids : (T.given largest seeds).map Prod.fst = seeds.filterMap T.own := by
    rw [given_of_own hown, List.map_filterMap]
    refine List.filterMap_congr fun y _ => ?_
    rw [Option.map_map]
    exact congrFun Option.map_id _
  rw [hs, getElem?_filled_iff (hids ▸ hdistinct), given_of_own hown, List.mem_filterMap]
  constructor
  · rintro ⟨y, hy, hentry⟩
    obtain ⟨own, hid, heq⟩ := Option.map_eq_some_iff.mp hentry
    obtain ⟨rfl, rfl⟩ := Prod.mk.inj heq
    exact ⟨hy, hid⟩
  · rintro ⟨hx, hid⟩
    refine ⟨x, hx, ?_⟩
    rw [hid]
    rfl

theorem mem_numbers_of_stored
    (hs : T.entries s = (∅ : Std.TreeMap Nat γ).insertMany (T.given largest seeds))
    {id : Nat} {x : γ} (h : (T.entries s)[id]? = some x) :
    id ∈ numbers largest (seeds.map T.own) := by
  have hcontains : (T.entries s).contains id = true := by
    rw [Std.TreeMap.contains_eq_isSome_getElem?, h]
    rfl
  rw [hs, Std.TreeMap.contains_insertMany_list, fst_given] at hcontains
  simpa using hcontains

/-- The seeds of an empty table are kept exactly if no two of them get the same id. -/
theorem keeps_iff (hs : T.entries s = (∅ : Std.TreeMap Nat γ).insertMany (T.given largest seeds)) :
    T.Keeps s seeds ↔ (numbers largest (seeds.map T.own)).Nodup := by
  have hlength : (numbers largest (seeds.map T.own)).length = seeds.length := by
    rw [length_numbers, List.length_map]
  constructor
  · rintro ⟨ids, hids, hnodup, hkept⟩
    -- As many different ids as there are seeds are among those that the seeds got.
    have hsubset : ids ⊆ numbers largest (seeds.map T.own) := by
      intro id hid
      obtain ⟨i, hi⟩ := List.mem_iff_getElem?.mp hid
      have hlt : i < seeds.length := hids ▸ (List.getElem?_eq_some_iff.mp hi).1
      exact mem_numbers_of_stored hs (hkept i _ id (List.getElem?_eq_getElem hlt) hi).2
    have hperm := (List.subperm_of_subset hnodup hsubset).perm_of_length_le (by rw [hlength, hids])
    exact hperm.nodup_iff.mp hnodup
  · intro hnodup
    refine ⟨_, hlength, hnodup, fun i x id hx hid => ⟨fun own hown => ?_, ?_⟩⟩
    · have hseed : (seeds.map T.own)[i]? = some (some own) := by
        rw [List.getElem?_map, hx, Option.map_some, hown]
      exact Option.some.inj (hid.symm.trans (numbers_of_own hseed))
    · rw [hs, getElem?_filled_iff (by rw [fst_given]; exact hnodup)]
      refine List.mem_map.mpr ⟨(id, x), List.mem_of_getElem? (i := i) ?_, rfl⟩
      rw [List.getElem?_zip_eq_some]
      exact ⟨hid, hx⟩

end Table

/-! ## Stores -/

theorem seedSpools_profiles (s : Store α) (spools : List (Spool α)) :
    (spools.foldl seedSpool s).profiles = s.profiles := by
  induction spools generalizing s with
  | nil => rfl
  | cons spool rest ih =>
    rw [List.foldl_cons, ih]
    unfold seedSpool
    cases hid : s.seedId? spool.id with
    | none => rfl
    | some given =>
      obtain ⟨id, t⟩ := given
      obtain ⟨⟨next, rfl⟩, -⟩ := seedId?_eq hid
      rfl

/-- As long as there are ids left, a store is filled with its seeds as they are numbered, profiles
first. -/
theorem ofSeeds_tables {profiles : List (Profile α)} {spools : List (Spool α)}
    (hleft : IdsLeft 0 (profiles.map Profile.id ++ spools.map Spool.id)) :
    (ofSeeds profiles spools).profiles =
        (∅ : Std.TreeMap Nat (Profile α)).insertMany (profileTable.given 0 profiles) ∧
      (ofSeeds profiles spools).spools = (∅ : Std.TreeMap Nat (Spool α)).insertMany
        (spoolTable.given (top 0 (profiles.map Profile.id)) spools) := by
  rw [idsLeft_append] at hleft
  obtain ⟨hprofiles, hspools⟩ := hleft
  obtain ⟨hentries, hcounts⟩ := profileTable.seeded counts_empty hprofiles
  obtain ⟨hentries', -⟩ := spoolTable.seeded hcounts hspools
  obtain ⟨hnospools, -, -⟩ := (empty : Store α).seedProfiles_frame profiles
  refine ⟨?_, ?_⟩
  · rw [ofSeeds, seedSpools_profiles]
    exact hentries
  · refine Eq.trans hentries' ?_
    show (profiles.foldl seedProfile empty).spools.insertMany _ = _
    rw [hnospools]
    rfl

/-- A store is filled with entries that have ids already, no two of a list the same, as they are. -/
theorem ofSeeds_of_own {profiles : List (Profile α)} {spools : List (Spool α)}
    (hprofiles : ∀ p ∈ profiles, p.id.isSome = true)
    (hdistinct : (profiles.filterMap Profile.id).Nodup)
    (hspools : ∀ spool ∈ spools, spool.id.isSome = true)
    (hdistinct' : (spools.filterMap Spool.id).Nodup) :
    (∀ id p, (ofSeeds profiles spools).profiles[id]? = some p ↔ p ∈ profiles ∧ p.id = some id) ∧
      ∀ id spool, (ofSeeds profiles spools).spools[id]? = some spool ↔
        spool ∈ spools ∧ spool.id = some id := by
  have hleft : IdsLeft 0 (profiles.map Profile.id ++ spools.map Spool.id) := by
    refine idsLeft_of_own fun own hown => ?_
    rcases List.mem_append.mp hown with hmem | hmem
    · obtain ⟨p, hp, rfl⟩ := List.mem_map.mp hmem
      exact hprofiles p hp
    · obtain ⟨spool, hspool, rfl⟩ := List.mem_map.mp hmem
      exact hspools spool hspool
  obtain ⟨hprofileTable, hspoolTable⟩ := ofSeeds_tables hleft
  exact ⟨fun id p => Table.stored_iff_of_own (T := profileTable) hprofileTable hprofiles hdistinct,
    fun id spool => Table.stored_iff_of_own (T := spoolTable) hspoolTable hspools hdistinct'⟩

/-- Suppose that within each table the ids that seeds have of their own are different, and that
there are ids left for the others. Then all seeds of a table are stored, those with an id under it
and each of the others under one that no other seed has, exactly if no seed without an id gets, as
the largest id before it plus one, the id of a later seed of the table. -/
theorem seeds_kept_iff (profiles : List (Profile α)) (spools : List (Spool α))
    (hprofiles : (profiles.filterMap Profile.id).Nodup)
    (hspools : (spools.filterMap Spool.id).Nodup)
    (hleft : IdsLeft 0 (profiles.map Profile.id ++ spools.map Spool.id)) :
    (profileTable.Keeps (ofSeeds profiles spools) profiles ↔
      ¬Clashes 0 (profiles.map Profile.id)) ∧
    (spoolTable.Keeps (ofSeeds profiles spools) spools ↔
      ¬Clashes (top 0 (profiles.map Profile.id)) (spools.map Spool.id)) := by
  obtain ⟨hprofileTable, hspoolTable⟩ := ofSeeds_tables hleft
  refine ⟨(Table.keeps_iff hprofileTable).trans (nodup_numbers_iff ?_),
    (Table.keeps_iff hspoolTable).trans (nodup_numbers_iff ?_)⟩
  · rw [List.filterMap_map]
    exact hprofiles
  · rw [List.filterMap_map]
    exact hspools

end

/-- A material that is stored already, or a new one. -/
def material (id : Option Nat) (name : String) : Profile Float where
  id := id
  vendor := "Acme"
  material := name
  density := 1.25
  diameter := 1.75

/-- A material without an id may stand between others. -/
theorem seeds_kept_between :
    let profiles := [material (some 3) "PLA", material none "PETG", material (some 1) "ABS"]
    (profiles.filterMap Profile.id).Nodup ∧ (([] : List (Spool Float)).filterMap Spool.id).Nodup ∧
      IdsLeft 0 (profiles.map Profile.id ++ ([] : List (Spool Float)).map Spool.id) ∧
      profileTable.Keeps (ofSeeds profiles []) profiles := by
  intro profiles
  have hprofiles : (profiles.filterMap Profile.id).Nodup := by decide
  have hspools : (([] : List (Spool Float)).filterMap Spool.id).Nodup := List.nodup_nil
  have hleft : IdsLeft 0 (profiles.map Profile.id ++ ([] : List (Spool Float)).map Spool.id) := by
    decide
  have hclash : ¬Clashes 0 (profiles.map Profile.id) :=
    (nodup_numbers_iff (by decide)).mp (by decide)
  exact ⟨hprofiles, hspools, hleft,
    (seeds_kept_iff profiles [] hprofiles hspools hleft).1.mpr hclash⟩

/-- A new material before the first one gets its id, and is replaced by it. -/
theorem seed_replaced_by_later :
    let profiles := [material none "PETG", material (some 1) "PLA"]
    (profiles.filterMap Profile.id).Nodup ∧
      IdsLeft 0 (profiles.map Profile.id ++ ([] : List (Spool Float)).map Spool.id) ∧
      ¬profileTable.Keeps (ofSeeds profiles []) profiles := by
  intro profiles
  have hleft : IdsLeft 0 (profiles.map Profile.id ++ ([] : List (Spool Float)).map Spool.id) := by
    decide
  have hsame : ¬(numbers 0 (profiles.map Profile.id)).Nodup := by decide
  exact ⟨by decide, hleft,
    fun hkeeps => hsame ((Table.keeps_iff (ofSeeds_tables hleft).1).mp hkeeps)⟩

end Store
end Filament
