import Mathlib.Algebra.Order.Field.Basic
import Mathlib.Algebra.Order.Ring.Rat
import Mathlib.Tactic.Positivity
import Mathlib.Tactic.Ring
import Filament.Consumption
import Filament.Proofs.Check

/-!
Exact arithmetic.

The rules of the library over an ordered field, where sums are exact and two numbers are equal if
they compare equal. Of the ratio of a circle's circumference to its diameter they need only that it
is positive, so any such number may stand for it.
-/

namespace Filament

/-- A positive number in the place of the circle ratio. -/
class CircleRatio (K : Type) [Zero K] [LT K] where
  ratio : K
  ratio_pos : 0 < ratio

/-- The constant of the doubles, as the decimal that it is written with. -/
instance rationalRatio : CircleRatio ℚ where
  ratio := 3141592653589793 / 1000000000000000
  ratio_pos := by norm_num

/-! ## Contents that compare equal -/

section

variable {α : Type} [BEq α] [LawfulBEq α]

instance profileLawful : LawfulBEq (Profile α) where
  eq_of_beq {p q} h := by
    have hfields : (p.id == q.id && p.vendor == q.vendor && p.material == q.material &&
        p.density == q.density && p.diameter == q.diameter) = true := h
    simp only [Bool.and_eq_true, beq_iff_eq] at hfields
    obtain ⟨⟨⟨⟨hid, hvendor⟩, hmaterial⟩, hdensity⟩, hdiameter⟩ := hfields
    cases p
    simp only at hid hvendor hmaterial hdensity hdiameter
    rw [hid, hvendor, hmaterial, hdensity, hdiameter]
  rfl {p} := by
    show (p.id == p.id && p.vendor == p.vendor && p.material == p.material &&
      p.density == p.density && p.diameter == p.diameter) = true
    simp

instance spoolLawful : LawfulBEq (Spool α) where
  eq_of_beq {s t} h := by
    have hfields : (s.id == t.id && s.name == t.name && s.profile == t.profile &&
        s.cost == t.cost && s.weight == t.weight && s.used == t.used &&
        s.tempOffset == t.tempOffset) = true := h
    simp only [Bool.and_eq_true, beq_iff_eq] at hfields
    obtain ⟨⟨⟨⟨⟨⟨hid, hname⟩, hprofile⟩, hcost⟩, hweight⟩, hused⟩, hoffset⟩ := hfields
    cases s
    simp only at hid hname hprofile hcost hweight hused hoffset
    rw [hid, hname, hprofile, hcost, hweight, hused, hoffset]
  rfl {s} := by
    show (s.id == s.id && s.name == s.name && s.profile == s.profile && s.cost == s.cost &&
      s.weight == s.weight && s.used == s.used && s.tempOffset == s.tempOffset) = true
    simp

end

/-! ## Ordered fields -/

variable {K : Type} [Field K] [LinearOrder K] [CircleRatio K]

instance (priority := low) exactScalar : Scalar K where
  ofNat n := n
  ofDecimal d := (if d.negative then -1 else 1) * d.digits * 10 ^ d.exponent
  pi := CircleRatio.ratio
  beq a b := decide (a = b)
  lt a b := decide (a < b)
  le a b := decide (a ≤ b)
  isFinite _ := true

namespace Exact

instance lawful : LawfulBEq K where
  eq_of_beq h := of_decide_eq_true h
  rfl := decide_eq_true rfl

@[simp] theorem zero_eq : (Scalar.zero : K) = 0 := Nat.cast_zero

@[simp] theorem lt_iff {a b : K} : Scalar.lt a b = true ↔ a < b := decide_eq_true_iff

@[simp] theorem lt_eq_false_iff {a b : K} : Scalar.lt a b = false ↔ b ≤ a := by
  rw [Bool.eq_false_iff, ne_eq, lt_iff, not_lt]

@[simp] theorem le_iff {a b : K} : Scalar.le a b = true ↔ a ≤ b := decide_eq_true_iff

@[simp] theorem isFinite_eq (a : K) : Scalar.isFinite a = true := rfl

theorem larger_eq_max (a b : K) : Scalar.larger a b = max a b := by
  unfold Scalar.larger
  by_cases h : a < b
  · rw [if_pos (lt_iff.mpr h), max_eq_right h.le]
  · rw [if_neg (lt_iff.not.mpr h), max_eq_left (not_lt.mp h)]

end Exact

/-! ## Masses -/

variable [IsStrictOrderedRing K] {length diameter density : K}

/-- The volume of a strand in cm³ is a positive multiple of its length. -/
theorem Strand.mass_eq_mul (hdiameter : 0 < diameter) (hdensity : 0 < density) :
    ∃ c : K, 0 < c ∧ ∀ length, mass length diameter density = length * c := by
  have hpi := CircleRatio.ratio_pos (K := K)
  refine ⟨CircleRatio.ratio * (diameter / 2) * (diameter / 2) / 1000 * density, by positivity, ?_⟩
  intro length
  show length * CircleRatio.ratio * (diameter / (2 : ℕ)) * (diameter / (2 : ℕ)) /
    (1000 : ℕ) * density = _
  push_cast
  ring

theorem Strand.mass_nonneg (hdiameter : 0 < diameter) (hdensity : 0 < density)
    (hlength : 0 ≤ length) : 0 ≤ mass length diameter density := by
  obtain ⟨c, hc, hmass⟩ := mass_eq_mul hdiameter hdensity
  rw [hmass]
  exact mul_nonneg hlength hc.le

theorem Strand.mass_eq_zero_iff (hdiameter : 0 < diameter) (hdensity : 0 < density) :
    mass length diameter density = 0 ↔ length = 0 := by
  obtain ⟨c, hc, hmass⟩ := mass_eq_mul hdiameter hdensity
  rw [hmass, mul_eq_zero]
  exact or_iff_left hc.ne'

/-! ## Spools -/

omit [IsStrictOrderedRing K]

theorem isAmount_iff {a : K} : isAmount a = true ↔ 0 ≤ a := by
  simp [isAmount]

theorem checkPositive_eq_ok_iff {field : String} {a : K} :
    checkPositive field a = .ok () ↔ 0 < a := by
  simp [checkPositive]

namespace Spool

variable {s : Spool K}

/-- A valid spool is of a real strand, and no more is gone of it than it held. -/
theorem bounds_of_check (h : s.check = .ok ()) :
    0 < s.profile.diameter ∧ 0 < s.profile.density ∧ 0 ≤ s.used ∧ s.used ≤ s.weight := by
  obtain ⟨-, -, hdiameter, hdensity, -, -, hused, hweight, -⟩ := check_eq_ok_iff.mp h
  rw [checkPositive_eq_ok_iff] at hdiameter hdensity
  rw [isAmount_iff] at hused
  exact ⟨hdiameter, hdensity, hused, Exact.lt_eq_false_iff.mp hweight⟩

/-- A valid spool stays valid when what is gone of it changes within its weight. -/
theorem check_used (h : s.check = .ok ()) {used : K} (hpos : 0 ≤ used) (hle : used ≤ s.weight) :
    check { s with used } = .ok () := by
  obtain ⟨hname, hprofile, hdiameter, hdensity, hcost, hweight, -, -, hoffset⟩ :=
    check_eq_ok_iff.mp h
  exact check_eq_ok_iff.mpr ⟨hname, hprofile, hdiameter, hdensity, hcost, hweight,
    isAmount_iff.mpr hpos, Exact.lt_eq_false_iff.mpr hle, hoffset⟩

end Spool
end Filament
