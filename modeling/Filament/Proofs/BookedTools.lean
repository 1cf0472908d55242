import Filament.Proofs.Accepted

/-!
What a print books on every tool.

Booking comes to something as soon as no weight is below zero or no number, whatever was extruded.
It makes one entry for each tool that has a spool and that the odometer knows, in the order of the
tools. An entry has what the tool extruded, and the spool on the tool with what is gone of it
brought into the range from zero to its weight (`tools_booked`).
-/

namespace Filament

variable {α : Type}

/-- The booked tools ascend, so no tool is booked twice. -/
theorem pairwise_mounted (slots : List (Option (Spool α))) (extrusion : List α) :
    (mounted slots extrusion).Pairwise fun m n => m.1 < n.1 := by
  have hindices : (slots.zip extrusion).zipIdx.Pairwise fun e f => e.2 < f.2 := by
    rw [← List.pairwise_map (f := Prod.snd) (R := (· < ·)), List.zipIdx_map_snd]
    exact List.pairwise_lt_range'
  unfold mounted
  refine hindices.filterMap _ fun e f hlt m hm n hn => ?_
  obtain ⟨s, -, rfl⟩ := Option.map_eq_some_iff.mp hm
  obtain ⟨t, -, rfl⟩ := Option.map_eq_some_iff.mp hn
  exact hlt

namespace Usage

/-! ## One tool -/

section

variable [Scalar α]

/-- What is gone of a spool after a mass was booked on it. -/
def usedAfter (spool : Spool α) (mass : α) : α :=
  let sum := spool.used + mass
  if Scalar.lt sum Scalar.zero then Scalar.zero
  else if Scalar.lt spool.weight sum then spool.weight
  else sum

/-- What booking a length comes to if the weight of the spool is a bound. -/
def entry (tool : Nat) (spool : Spool α) (length : α) : Usage α :=
  let used := usedAfter spool (spool.profile.mass length)
  { tool, length, mass := used - spool.used, spool := { spool with used } }

theorem book?_eq_some_entry {spool : Spool α} (h : Scalar.le Scalar.zero spool.weight = true)
    (tool : Nat) (length : α) : book? tool spool length = some (entry tool spool length) := by
  unfold book? clamp?
  rw [if_pos h]
  rfl

theorem bookAll?_eq_some_entries {slots : List (Option (Spool α))}
    (h : ∀ spool, some spool ∈ slots → Scalar.le Scalar.zero spool.weight = true)
    (extrusion : List α) :
    bookAll? slots extrusion =
      some ((mounted slots extrusion).map fun m => entry m.1 m.2.1 m.2.2) :=
  mapM_eq_some_map fun m hm => book?_eq_some_entry (h m.2.1 (mem_mounted hm).1) m.1 m.2.2

end

/-- `used` is the sum as far as a spool with this weight can carry it: the sum itself in the range
from zero to the weight, else the end of the range on the side of the sum, and no number only if the
sum is none. -/
structure Carries (weight sum used : Float) : Prop where
  isNaN : used.isNaN = true → sum.isNaN = true
  within : Scalar.le Scalar.zero sum = true → Scalar.le sum weight = true → used = sum
  outside : sum.isNaN = false → ¬(Scalar.le Scalar.zero sum = true ∧ Scalar.le sum weight = true) →
    Scalar.lt sum Scalar.zero = true ∧ used = Scalar.zero ∨
      Scalar.lt weight sum = true ∧ used = weight

theorem carries_usedAfter {spool : Spool Float} (h : Scalar.le Scalar.zero spool.weight = true)
    (mass : Float) : Carries spool.weight (spool.used + mass) (usedAfter spool mass) := by
  obtain ⟨hzero, hweight, -⟩ := Double.le_iff.mp h
  unfold usedAfter
  dsimp only
  generalize spool.used + mass = sum
  by_cases hbelow : Scalar.lt sum Scalar.zero = true
  · rw [if_pos hbelow]
    refine ⟨fun hnan => absurd hnan (Bool.eq_false_iff.mp hzero), fun hlow => ?_,
      fun _ _ => .inl ⟨hbelow, rfl⟩⟩
    rw [(Double.le_iff.mp hlow).2.2] at hbelow
    cases hbelow
  · rw [if_neg hbelow]
    by_cases habove : Scalar.lt spool.weight sum = true
    · rw [if_pos habove]
      refine ⟨fun hnan => absurd hnan (Bool.eq_false_iff.mp hweight), fun _ hhigh => ?_,
        fun _ _ => .inr ⟨habove, rfl⟩⟩
      rw [(Double.le_iff.mp hhigh).2.2] at habove
      cases habove
    · rw [if_neg habove]
      rw [Bool.not_eq_true] at hbelow habove
      refine ⟨id, fun _ _ => rfl, fun hsum houtside => absurd ?_ houtside⟩
      exact ⟨Double.le_iff.mpr ⟨hzero, hsum, hbelow⟩, Double.le_iff.mpr ⟨hsum, hweight, habove⟩⟩

end Usage

/-! ## All tools -/

theorem Registry.get_eq_some_iff {r : Registry α} {tool : Nat} {spool : Spool α} :
    r.get tool = .ok (some spool) ↔ r.slots[tool]? = some (some spool) := by
  unfold get
  cases r.slots[tool]? with
  | none => simp
  | some slot => simp

/-- What a print books, whatever lengths were extruded, if no selected spool weighs less than
nothing: one entry for each tool with a spool and a length, in the order of the tools. Of a spool
only what is gone of it changes, to what it carries of the sum. Finishing a print books this and
leaves the selections alone. -/
theorem tools_booked {ν : Type} (r : Registry Float) (extrusion : List Float)
    (h : ∀ spool, some spool ∈ r.slots → Scalar.le Scalar.zero spool.weight = true) :
    ∃ usage, Usage.bookAll? r.slots extrusion = some usage ∧
      usage.Pairwise (fun u v => u.tool < v.tool) ∧
      (∀ tool, (∃ u ∈ usage, u.tool = tool) ↔
        tool < r.toolCount ∧ tool < extrusion.length ∧ ∃ spool, r.get tool = .ok (some spool)) ∧
      (∀ u ∈ usage, ∃ spool, r.get u.tool = .ok (some spool) ∧ extrusion[u.tool]? = some u.length ∧
        u.spool = { spool with used := u.spool.used } ∧ u.mass = u.spool.used - spool.used ∧
        Usage.Carries spool.weight (spool.used + spool.profile.mass u.length) u.spool.used) ∧
      ∀ a : Accounting Float ν, a.registry = r → a.print.odometer.extrusion = extrusion →
        a.print.printing = true → a.print.counting = true →
          a.finishPrint.1 = some usage ∧ a.finishPrint.2.registry = r := by
  have hbooked := Usage.bookAll?_eq_some_entries h extrusion
  refine ⟨_, hbooked, List.pairwise_map.mpr (pairwise_mounted r.slots extrusion), fun tool => ?_,
    fun u hu => ?_, fun a hregistry hextrusion hprinting hcounting => ?_⟩
  · simp only [List.mem_map, exists_exists_and_eq_and]
    constructor
    · rintro ⟨⟨_, spool, length⟩, hm, rfl⟩
      obtain ⟨hslot, hlength⟩ := mem_mounted_iff.mp hm
      exact ⟨(List.getElem?_eq_some_iff.mp hslot).1, (List.getElem?_eq_some_iff.mp hlength).1,
        spool, Registry.get_eq_some_iff.mpr hslot⟩
    · rintro ⟨-, hlt, spool, hget⟩
      have hslot := Registry.get_eq_some_iff.mp hget
      exact ⟨(tool, spool, extrusion[tool]),
        mem_mounted_iff.mpr ⟨hslot, List.getElem?_eq_getElem hlt⟩, rfl⟩
  · obtain ⟨⟨tool, spool, length⟩, hm, rfl⟩ := List.mem_map.mp hu
    obtain ⟨hslot, hlength⟩ := mem_mounted_iff.mp hm
    exact ⟨spool, Registry.get_eq_some_iff.mpr hslot, hlength, rfl, rfl,
      Usage.carries_usedAfter (h spool (List.mem_of_getElem? hslot)) _⟩
  · subst hregistry hextrusion
    unfold Accounting.finishPrint Print.finish
    rw [if_pos hprinting, if_pos hcounting]
    exact ⟨hbooked, rfl⟩

/-- Two tools have a spool each, between them is one without. The first takes filament back, the
last has run away, and the odometer knows a tool that the printer does not have. -/
theorem tools_booked_runaway :
    let r : Registry Float := { slots := [some startedRoll, none, some startedRoll], revision := 3 }
    let extrusion : List Float := [-2500.5, 1, Decimal.infinity, 4]
    (∀ spool, some spool ∈ r.slots → Scalar.le Scalar.zero spool.weight = true) ∧
      ∃ usage, Usage.bookAll? r.slots extrusion = some usage ∧ ¬(∃ u ∈ usage, u.tool = 3) ∧
        ∃ u ∈ usage, u.tool = 2 ∧ u.spool.used = startedRoll.weight := by
  intro r extrusion
  have hweight : ∀ spool, some spool ∈ r.slots → Scalar.le Scalar.zero spool.weight = true := by
    intro spool hspool
    obtain rfl : spool = startedRoll := by simpa [r] using hspool
    decide +kernel
  obtain ⟨usage, hbooked, -, htools, hentry, -⟩ := tools_booked (ν := NoticeLog) r extrusion hweight
  refine ⟨hweight, usage, hbooked, fun hthree => absurd ((htools 3).mp hthree).1 (by decide), ?_⟩
  obtain ⟨u, hu, htwo⟩ := (htools 2).mpr ⟨by decide, by decide, startedRoll, rfl⟩
  obtain ⟨spool, hspool, hlength, -, -, hcarries⟩ := hentry u hu
  rw [htwo] at hspool hlength
  obtain rfl : startedRoll = spool := by simpa [r, Registry.get] using hspool
  obtain hlength : Decimal.infinity = u.length := Option.some.inj hlength
  rw [← hlength] at hcarries
  refine ⟨u, hu, htwo, ?_⟩
  rcases hcarries.outside (by decide +kernel) (by decide +kernel) with ⟨hbelow, -⟩ | ⟨-, hused⟩
  · exact absurd hbelow (by decide +kernel)
  · exact hused

end Filament
