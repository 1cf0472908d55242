import Filament.Proofs.Exact
import Filament.Proofs.Sending

/-!
What booking a print leaves in the store.

A print is booked from the spools as they were selected, tool by tool, and each spool is sent whole.
Of several tools with one spool only the last is therefore left in the store
(`spools_after_booking`), and the filament of all of them is booked only if the others used none or
the last alone empties the spool (`booked_used_eq_total_iff`). Numbers are those of exact
arithmetic.
-/

namespace Filament

/-! ## Booking -/

section

variable {α : Type}

/-- The tools that are booked, each with its spool and what it extruded. -/
def mounted (slots : List (Option (Spool α))) (extrusion : List α) : List (Nat × Spool α × α) :=
  (slots.zip extrusion).zipIdx.filterMap fun e => e.1.1.map fun spool => (e.2, spool, e.1.2)

theorem mem_mounted_iff {slots : List (Option (Spool α))} {extrusion : List α} {tool : Nat}
    {spool : Spool α} {length : α} :
    (tool, spool, length) ∈ mounted slots extrusion ↔
      slots[tool]? = some (some spool) ∧ extrusion[tool]? = some length := by
  unfold mounted
  rw [List.mem_filterMap]
  constructor
  · rintro ⟨⟨⟨slot, length'⟩, tool'⟩, hmem, hentry⟩
    obtain ⟨spool', rfl, heq⟩ := Option.map_eq_some_iff.mp hentry
    obtain ⟨rfl, rfl, rfl⟩ : tool' = tool ∧ spool' = spool ∧ length' = length := by simpa using heq
    have hget := List.mk_mem_zipIdx_iff_getElem?.mp hmem
    rw [List.getElem?_zip_eq_some] at hget
    exact hget
  · rintro ⟨hslot, hlength⟩
    refine ⟨((some spool, length), tool), ?_, rfl⟩
    rw [List.mk_mem_zipIdx_iff_getElem?, List.getElem?_zip_eq_some]
    exact ⟨hslot, hlength⟩

theorem mem_mounted {slots : List (Option (Spool α))} {extrusion : List α} {m : Nat × Spool α × α}
    (h : m ∈ mounted slots extrusion) : some m.2.1 ∈ slots ∧ m.2.2 ∈ extrusion := by
  obtain ⟨hslot, hlength⟩ := mem_mounted_iff.mp h
  exact ⟨List.mem_of_getElem? hslot, List.mem_of_getElem? hlength⟩

theorem mapM_eq_some_map {β γ : Type} {f : β → Option γ} {g : β → γ} {xs : List β}
    (h : ∀ x ∈ xs, f x = some (g x)) : xs.mapM f = some (xs.map g) := by
  induction xs with
  | nil => rfl
  | cons x rest ih =>
    rw [List.mapM_cons, h x List.mem_cons_self, ih fun y hy => h y (List.mem_cons_of_mem x hy)]
    rfl

/-- What the tools with a spool of this id extruded, in the order of the tools. A tool counts only
if both sides know it. -/
def lengthsOn (id : Nat) (slots : List (Option (Spool α))) (extrusion : List α) : List α :=
  (slots.zip extrusion).filterMap fun e => if e.1.bind Spool.id = some id then some e.2 else none

theorem mem_lengthsOn {id : Nat} {slots : List (Option (Spool α))} {extrusion : List α} {length : α}
    (h : length ∈ lengthsOn id slots extrusion) :
    (∃ spool, some spool ∈ slots ∧ spool.id = some id) ∧ length ∈ extrusion := by
  obtain ⟨⟨spool?, length'⟩, hzip, he⟩ := List.mem_filterMap.mp h
  by_cases hid : spool?.bind Spool.id = some id
  · rw [if_pos hid] at he
    obtain rfl := Option.some.inj he
    obtain ⟨spool, rfl, hspool⟩ := Option.bind_eq_some_iff.mp hid
    exact ⟨⟨spool, (List.of_mem_zip hzip).1, hspool⟩, (List.of_mem_zip hzip).2⟩
  · rw [if_neg hid] at he
    cases he

/-- Every selected spool is valid, and has the content of the spool stored under its id. -/
def Backed [Scalar α] (slots : List (Option (Spool α))) (store : Store α) : Prop :=
  ∀ spool, some spool ∈ slots → spool.check = .ok () ∧
    ∃ id stored, spool.id = some id ∧ store.spools[id]? = some stored ∧ (stored == spool) = true

end

variable {K : Type} [Field K] [LinearOrder K] [CircleRatio K]

theorem Backed.stored {slots : List (Option (Spool K))} {store : Store K} (h : Backed slots store)
    {spool : Spool K} (hspool : some spool ∈ slots) {id : Nat} (hid : spool.id = some id) :
    store.spools[id]? = some spool := by
  obtain ⟨-, own, stored, hown, hstored, hbeq⟩ := h spool hspool
  obtain rfl : own = id := Option.some.inj (hown.symm.trans hid)
  rw [hstored, eq_of_beq hbeq]

/-- A spool after a length was booked on it. -/
def Spool.booked (s : Spool K) (length : K) : Spool K :=
  { s with used := min s.weight (s.used + s.profile.mass length) }

/-- What booking a length on a spool comes to. -/
def Usage.booked (tool : Nat) (s : Spool K) (length : K) : Usage K where
  tool := tool
  length := length
  mass := (s.booked length).used - s.used
  spool := s.booked length

/-- What is sent under an id is the spool with each length on its tools booked on it alone. -/
theorem Usage.sent_eq {slots : List (Option (Spool K))} {extrusion : List K} {id : Nat}
    {stored : Spool K} (h : ∀ spool, some spool ∈ slots → spool.id = some id → spool = stored) :
    ((mounted slots extrusion).map fun m => m.2.1.booked m.2.2).filter (fun s => s.id == some id) =
      (lengthsOn id slots extrusion).map stored.booked := by
  have hmounted : (mounted slots extrusion).map (fun m => m.2.1.booked m.2.2) =
      (slots.zip extrusion).filterMap fun e => e.1.map fun spool => spool.booked e.2 := by
    conv_rhs => rw [← List.zipIdx_map_fst 0 (slots.zip extrusion), List.filterMap_map]
    rw [mounted, List.map_filterMap]
    simp only [Option.map_map, Function.comp_def]
  rw [hmounted, lengthsOn, List.filter_filterMap, List.map_filterMap]
  refine List.filterMap_congr fun e he => ?_
  obtain ⟨spool?, length⟩ := e
  cases spool? with
  | none => rfl
  | some spool =>
    have hid : (spool.booked length).id = spool.id := rfl
    by_cases hown : spool.id = some id
    · obtain rfl := h spool (List.of_mem_zip he).1 hown
      simp [Option.filter, hid, hown]
    · simp [Option.filter, hid, hown]

variable [IsStrictOrderedRing K]

theorem Profile.mass_nonneg {s : Spool K} (h : s.check = .ok ()) {length : K} (hl : 0 ≤ length) :
    0 ≤ s.profile.mass length := by
  obtain ⟨hdiameter, hdensity, -, -⟩ := s.bounds_of_check h
  exact Strand.mass_nonneg hdiameter hdensity hl

theorem Spool.check_booked {s : Spool K} (h : s.check = .ok ()) {length : K} (hl : 0 ≤ length) :
    (s.booked length).check = .ok () := by
  obtain ⟨-, -, hused, hweight⟩ := s.bounds_of_check h
  have hmass := Profile.mass_nonneg h hl
  exact check_used h (le_min (hused.trans hweight) (add_nonneg hused hmass)) (min_le_left _ _)

theorem Usage.book?_eq {s : Spool K} (h : s.check = .ok ()) {length : K} (hl : 0 ≤ length)
    (tool : Nat) :
    book? tool s length = some (booked tool s length) := by
  obtain ⟨-, -, hused, hweight⟩ := s.bounds_of_check h
  have hmass := Profile.mass_nonneg h hl
  have hclamp : clamp? (s.used + s.profile.mass length) s.weight = some (s.booked length).used := by
    have hbound : Scalar.le Scalar.zero s.weight = true := by
      rw [Exact.le_iff, Exact.zero_eq]
      exact hused.trans hweight
    have hpos : ¬Scalar.lt (s.used + s.profile.mass length) Scalar.zero = true := by
      rw [Exact.lt_iff, Exact.zero_eq]
      exact not_lt.mpr (add_nonneg hused hmass)
    rw [clamp?, if_pos hbound, if_neg hpos, Spool.booked]
    by_cases hover : s.weight < s.used + s.profile.mass length
    · rw [if_pos (Exact.lt_iff.mpr hover), min_eq_left hover.le]
    · rw [if_neg (Exact.lt_iff.not.mpr hover), min_eq_right (not_lt.mp hover)]
  rw [book?, hclamp]
  rfl

namespace Usage

/-- Booking on valid spools succeeds. -/
theorem bookAll?_eq {slots : List (Option (Spool K))} {extrusion : List K}
    (hslots : ∀ spool, some spool ∈ slots → spool.check = .ok ())
    (hextrusion : ∀ length ∈ extrusion, 0 ≤ length) :
    bookAll? slots extrusion =
      some ((mounted slots extrusion).map fun m => booked m.1 m.2.1 m.2.2) := by
  show (mounted slots extrusion).mapM (fun m => book? m.1 m.2.1 m.2.2) = _
  refine mapM_eq_some_map fun m hm => ?_
  obtain ⟨hspool, hlength⟩ := mem_mounted hm
  exact book?_eq (hslots m.2.1 hspool) (hextrusion m.2.2 hlength) m.1

end Usage

/-- After a print is booked, each spool that was on a booked tool holds what the last such tool
alone makes of it, and every other spool is what it was. -/
theorem spools_after_booking {slots : List (Option (Spool K))} {extrusion : List K}
    {store : Store K} (hslots : Backed slots store)
    (hextrusion : ∀ length ∈ extrusion, 0 ≤ length) :
    ∃ usage saved after, Usage.bookAll? slots extrusion = some usage ∧
      (Usage.sendAll usage).run store = (.ok saved, after) ∧
      ∀ id, (lengthsOn id slots extrusion = [] → after.spools[id]? = store.spools[id]?) ∧
        ∀ last, (lengthsOn id slots extrusion).getLast? = some last →
          ∃ spool, store.spools[id]? = some spool ∧ spool.check = .ok () ∧
            after.spools[id]? = some (spool.booked last) := by
  have hvalid : ∀ spool, some spool ∈ slots → spool.check = .ok () :=
    fun spool h => (hslots spool h).1
  have hsendable : ∀ u ∈ (mounted slots extrusion).map fun m => Usage.booked m.1 m.2.1 m.2.2,
      u.Sendable store := by
    intro u hu
    obtain ⟨m, hm, rfl⟩ := List.mem_map.mp hu
    obtain ⟨hspool, hlength⟩ := mem_mounted hm
    obtain ⟨hcheck, id, -, hid, -, -⟩ := hslots m.2.1 hspool
    refine ⟨Spool.accept_eq_ok_iff.mpr (Spool.check_booked hcheck (hextrusion _ hlength)),
      id, hid, ?_⟩
    rw [Std.TreeMap.contains_eq_isSome_getElem?, hslots.stored hspool hid]
    rfl
  obtain ⟨after, hrun, hafter⟩ := Usage.run_sendAll hsendable
  refine ⟨_, _, after, Usage.bookAll?_eq hvalid hextrusion, hrun, fun id => ?_⟩
  -- Selected spools with one id are all the one stored under it.
  obtain ⟨stored, hstored⟩ : ∃ stored, ∀ spool, some spool ∈ slots → spool.id = some id →
      spool = stored := by
    by_cases hselected : ∃ spool, some spool ∈ slots ∧ spool.id = some id
    · obtain ⟨spool, hspool, hid⟩ := hselected
      refine ⟨spool, fun other hother hown => ?_⟩
      exact Option.some.inj ((hslots.stored hother hown).symm.trans (hslots.stored hspool hid))
    · exact ⟨Spool.standard, fun other hother hown => absurd ⟨other, hother, hown⟩ hselected⟩
  have hlast : Usage.lastSent ((mounted slots extrusion).map fun m => Usage.booked m.1 m.2.1 m.2.2)
      id = (lengthsOn id slots extrusion).getLast?.map stored.booked := by
    rw [Usage.lastSent, List.map_map, ← List.getLast?_map, ← Usage.sent_eq hstored]
    rfl
  rw [hafter, hlast]
  constructor
  · intro hnil
    rw [hnil]
    rfl
  · intro last hlength
    obtain ⟨⟨spool, hspool, hid⟩, -⟩ := mem_lengthsOn (List.mem_of_getLast? hlength)
    refine ⟨spool, hslots.stored hspool hid, hvalid spool hspool, ?_⟩
    rw [hlength, hstored spool hspool hid]
    rfl

/-! ## The filament of all tools -/

/-- The mass of all lengths on a spool. -/
def Spool.total (s : Spool K) (lengths : List K) : K := (lengths.map s.profile.mass).sum

theorem Spool.total_nonneg {s : Spool K} (h : s.check = .ok ()) {lengths : List K}
    (hlengths : ∀ length ∈ lengths, 0 ≤ length) : 0 ≤ s.total lengths := by
  refine List.sum_nonneg fun m hm => ?_
  obtain ⟨length, hlength, rfl⟩ := List.mem_map.mp hm
  exact Profile.mass_nonneg h (hlengths length hlength)

theorem Spool.total_eq_zero_iff {s : Spool K} (h : s.check = .ok ()) {lengths : List K}
    (hlengths : ∀ length ∈ lengths, 0 ≤ length) :
    s.total lengths = 0 ↔ ∀ length ∈ lengths, length = 0 := by
  obtain ⟨hdiameter, hdensity, -, -⟩ := s.bounds_of_check h
  induction lengths with
  | nil => simp [total]
  | cons length rest ih =>
    have hrest : ∀ l ∈ rest, 0 ≤ l := fun l hl => hlengths l (List.mem_cons_of_mem length hl)
    have hfirst := Profile.mass_nonneg h (hlengths length List.mem_cons_self)
    have hsplit : s.total (length :: rest) = s.profile.mass length + s.total rest := List.sum_cons
    rw [hsplit, add_eq_zero_iff_of_nonneg hfirst (total_nonneg h hrest), ih hrest,
      List.forall_mem_cons, Profile.mass, Strand.mass_eq_zero_iff hdiameter hdensity]

/-- Adding the rest below the bound changes nothing if there is no rest or the bound is reached
without it. -/
theorem min_add_eq_min_add_iff {bound a rest : K} (hrest : 0 ≤ rest) :
    min bound a = min bound (rest + a) ↔ rest = 0 ∨ bound ≤ a := by
  constructor
  · intro h
    by_cases hreached : bound ≤ a
    · exact Or.inr hreached
    · left
      rw [min_eq_right (not_le.mp hreached).le] at h
      rcases min_choice bound (rest + a) with hmin | hmin
      · exact absurd (h.trans hmin).ge hreached
      · rw [hmin] at h
        exact add_eq_right.mp h.symm
  · rintro (rfl | hreached)
    · rw [zero_add]
    · rw [min_eq_left hreached, min_eq_left (hreached.trans (le_add_of_nonneg_left hrest))]

/-- Booking a print on valid spools succeeds. A spool on no booked tool is left as it was. Any other
holds what the last of its tools alone makes of it; that is the mass of all its tools, up to its
weight, exactly if the others extruded nothing or the last one empties the spool. -/
theorem booked_used_eq_total_iff {slots : List (Option (Spool K))} {extrusion : List K}
    {store : Store K} (hslots : Backed slots store)
    (hextrusion : ∀ length ∈ extrusion, 0 ≤ length) :
    ∃ usage saved after, Usage.bookAll? slots extrusion = some usage ∧
      (Usage.sendAll usage).run store = (.ok saved, after) ∧
      ∀ id, (lengthsOn id slots extrusion = [] → after.spools[id]? = store.spools[id]?) ∧
        ∀ last, (lengthsOn id slots extrusion).getLast? = some last →
          ∃ spool, store.spools[id]? = some spool ∧
            after.spools[id]? =
              some { spool with used := min spool.weight (spool.used + spool.profile.mass last) } ∧
            (after.spools[id]?.map Spool.used =
                some (min spool.weight (spool.used + spool.total (lengthsOn id slots extrusion))) ↔
              (∀ length ∈ (lengthsOn id slots extrusion).dropLast, length = 0) ∨
                spool.weight ≤ spool.used + spool.profile.mass last) := by
  obtain ⟨usage, saved, after, hbook, hrun, hspools⟩ := spools_after_booking hslots hextrusion
  refine ⟨usage, saved, after, hbook, hrun, fun id => ⟨(hspools id).1, fun last hlast => ?_⟩⟩
  obtain ⟨spool, hstored, hcheck, hafter⟩ := (hspools id).2 last hlast
  refine ⟨spool, hstored, hafter, ?_⟩
  have hothers : ∀ length ∈ (lengthsOn id slots extrusion).dropLast, 0 ≤ length := fun length h =>
    hextrusion length (mem_lengthsOn (List.mem_of_mem_dropLast h)).2
  have hsplit : spool.used + spool.total (lengthsOn id slots extrusion) =
      spool.total (lengthsOn id slots extrusion).dropLast +
        (spool.used + spool.profile.mass last) := by
    conv_lhs => rw [← List.dropLast_append_getLast? last hlast]
    rw [Spool.total, List.map_append, List.sum_append, ← Spool.total, List.map_singleton,
      List.sum_singleton]
    ring
  rw [hafter, Option.map_some, Option.some.injEq, hsplit, Spool.booked,
    min_add_eq_min_add_iff (Spool.total_nonneg hcheck hothers),
    Spool.total_eq_zero_iff hcheck hothers]

/-! ## One roll on two tools -/

/-- A roll of which nothing is gone. -/
def roll : Spool ℚ where
  id := some 1
  name := "Black"
  profile :=
    { id := some 1, vendor := "Acme", material := "PLA", density := 5 / 4, diameter := 7 / 4 }
  cost := 20
  weight := 1000
  used := 0
  tempOffset := 0

theorem roll_check : roll.check = .ok () := by
  have hname : (checkName "name" roll.name : Except (Invalid ℚ) Unit) = .ok () := by
    rw [checkName, if_neg (by decide +kernel), if_neg (by decide +kernel)]
  rw [Spool.check_eq_ok_iff, checkPositive_eq_ok_iff, checkPositive_eq_ok_iff]
  exact ⟨hname, by decide +kernel⟩

theorem roll_backed : Backed [some roll, some roll] (Store.ofSeeds [] [roll]) := by
  intro spool h
  obtain rfl : spool = roll := by simpa using h
  exact ⟨roll_check, 1, roll, rfl, rfl, BEq.rfl⟩

/-- Of a roll on two tools of which only the second one extruded, all is booked. -/
theorem booked_used_eq_total_roll :
    Backed [some roll, some roll] (Store.ofSeeds [] [roll]) ∧
    (∀ length ∈ [(0 : ℚ), 1000], 0 ≤ length) ∧
    ∃ usage saved after, Usage.bookAll? [some roll, some roll] [0, 1000] = some usage ∧
      (Usage.sendAll usage).run (Store.ofSeeds [] [roll]) = (.ok saved, after) ∧
      after.spools[1]?.map Spool.used =
        some (min roll.weight (roll.used +
          roll.total (lengthsOn 1 [some roll, some roll] [0, 1000]))) := by
  have hextrusion : ∀ length ∈ [(0 : ℚ), 1000], 0 ≤ length := by decide +kernel
  obtain ⟨usage, saved, after, hbook, hrun, hspools⟩ :=
    booked_used_eq_total_iff roll_backed hextrusion
  obtain ⟨spool, hstored, -, hiff⟩ := (hspools 1).2 1000 rfl
  obtain rfl : roll = spool := Option.some.inj hstored
  have hothers : ∀ length ∈ [(0 : ℚ)], length = 0 := by decide +kernel
  exact ⟨roll_backed, hextrusion, usage, saved, after, hbook, hrun, hiff.mpr (Or.inl hothers)⟩

/-- With one roll on both tools, booking two lengths leaves only the second one booked. -/
theorem booking_loses_usage :
    Backed [some roll, some roll] (Store.ofSeeds [] [roll]) ∧
    ¬∃ usage saved after, Usage.bookAll? [some roll, some roll] [1000, 1000] = some usage ∧
      (Usage.sendAll usage).run (Store.ofSeeds [] [roll]) = (.ok saved, after) ∧
      after.spools[1]?.map Spool.used =
        some (min roll.weight (roll.used +
          roll.total (lengthsOn 1 [some roll, some roll] [1000, 1000]))) := by
  refine ⟨roll_backed, ?_⟩
  rintro ⟨usage, saved, after, hbook, hrun, hused⟩
  have hextrusion : ∀ length ∈ [(1000 : ℚ), 1000], 0 ≤ length := by decide +kernel
  obtain ⟨usage', saved', after', hbook', hrun', hspools⟩ :=
    spools_after_booking roll_backed hextrusion
  obtain rfl : usage = usage' := Option.some.inj (hbook.symm.trans hbook')
  obtain rfl : after = after' := congrArg Prod.snd (hrun.symm.trans hrun')
  obtain ⟨spool, hstored, -, hafter⟩ := (hspools 1).2 1000 rfl
  obtain rfl : roll = spool := Option.some.inj hstored
  rw [hafter] at hused
  exact absurd hused (by decide +kernel)

end Filament
