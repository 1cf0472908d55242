import Mathlib.Algebra.Order.Field.Power
import Mathlib.Algebra.Order.Ring.Rat
import Mathlib.Tactic.NormNum
import Mathlib.Tactic.Ring
import Filament.Decimal.Basic
import Filament.Proofs.Packing

/-!
Rounding a number that needs none.

A product or quotient that is exactly a double is computed as that double (`mul_eq`, `div_eq`),
and a decimal that is exactly a double is read as it (`nearest_eq_ofParts`).
-/

namespace Filament
namespace Double

open Float.Model (Format UnpackedFloat)
open Float.Model.UnpackedFloat (Sign)

/-! ## Values -/

/-- The value of a mantissa and an exponent. -/
def value (m : Nat) (e : Int) : ℚ := m * (2 : ℚ) ^ e

variable {m n k : Nat} {e f : Int}

theorem value_natCast (n : Nat) : value n 0 = n := by
  rw [value, zpow_zero, mul_one]

theorem value_mul (m n : Nat) (e f : Int) : value m e * value n f = value (m * n) (e + f) := by
  unfold value
  rw [Nat.cast_mul, zpow_add₀ two_ne_zero]
  ring

theorem value_mul_two_pow (m k : Nat) (e : Int) : value (m * 2 ^ k) e = value m (e + k) := by
  unfold value
  rw [zpow_add₀ two_ne_zero, zpow_natCast]
  push_cast
  ring

/-- With its last place at `e` a mantissa has as many zeros behind it as the places differ by. -/
theorem eq_of_value_eq (h : value n e = value m f) (hle : e ≤ f) : n = m * 2 ^ (f - e).toNat := by
  have hsplit : (2 : ℚ) ^ f = 2 ^ (f - e).toNat * 2 ^ e := by
    rw [← zpow_natCast, ← zpow_add₀ two_ne_zero]
    congr 1
    omega
  have hne : (2 : ℚ) ^ e ≠ 0 := zpow_ne_zero e two_ne_zero
  unfold value at h
  rw [hsplit, ← mul_assoc, mul_left_inj' hne] at h
  exact_mod_cast h

theorem log2_mul_two_pow (hm : m ≠ 0) (k : Nat) : (m * 2 ^ k).log2 = m.log2 + k := by
  induction k with
  | zero => rw [Nat.pow_zero, Nat.mul_one, Nat.add_zero]
  | succ k ih =>
    have hpos : m * 2 ^ k ≠ 0 := Nat.mul_ne_zero hm (Nat.two_pow_pos k).ne'
    rw [Nat.pow_succ, ← Nat.mul_assoc, Nat.mul_comm _ 2, Nat.log2_two_mul hpos, ih, Nat.add_assoc]

theorem two_zpow_le_value (hm : m ≠ 0) : (2 : ℚ) ^ (m.log2 + e) ≤ value m e := by
  unfold value
  rw [zpow_add₀ two_ne_zero, zpow_natCast]
  have hlog : (2 : ℚ) ^ m.log2 ≤ m := by exact_mod_cast Nat.log2_self_le hm
  exact mul_le_mul_of_nonneg_right hlog (zpow_nonneg zero_le_two e)

theorem value_lt_two_zpow (m : Nat) (e : Int) : value m e < (2 : ℚ) ^ (m.log2 + 1 + e) := by
  unfold value
  rw [zpow_add₀ two_ne_zero]
  have hlog : (m : ℚ) < (2 : ℚ) ^ (m.log2 + 1 : Int) := by exact_mod_cast Nat.lt_log2_self
  exact mul_lt_mul_of_pos_right hlog (zpow_pos two_pos e)

/-- The place of the first digit is a matter of the value. -/
theorem log2_add_eq (hm : m ≠ 0) (hn : n ≠ 0) (h : value m e = value n f) :
    (m.log2 : Int) + e = n.log2 + f := by
  have hlt : ∀ {m n : Nat} {e f : Int}, m ≠ 0 → value m e = value n f →
      (m.log2 : Int) + e < n.log2 + 1 + f := by
    intro m n e f hm h
    have hbetween := (two_zpow_le_value hm).trans_lt (h ▸ value_lt_two_zpow n f)
    exact (zpow_lt_zpow_iff_right₀ one_lt_two).mp hbetween
  have hmn := hlt hm h
  have hnm := hlt hn h.symm
  omega

/-! ## Rounding -/

open Float.Model.UnpackedFloat (ExtendedMantissa)

theorem targetExponent_eq (m : Nat) (e : Int) :
    Format.binary64.targetExponent (Float.Model.totalExponent m e) =
      max (m.log2 + 1 + e - 53) (-1074) := rfl

theorem IsCanonical.log2_le (h : IsCanonical m e) : m.log2 ≤ 52 :=
  Nat.le_of_lt_succ ((Nat.log2_lt h.pos.ne').mpr h.lt)

theorem IsCanonical.max_eq (h : IsCanonical m e) :
    max ((m.log2 : Int) + 1 + e - 53) (-1074) = e := by
  have hge := h.ge
  have hlog := h.log2_le
  rcases h.full with hfull | hleast
  · have := (Nat.le_log2 h.pos.ne').mpr hfull
    omega
  · omega

theorem shiftRight_zeros (m k : Nat) :
    (ExtendedMantissa.mk (m * 2 ^ k) false false) >>> k = ⟨m, false, false⟩ := by
  show k.repeat ExtendedMantissa.shiftRightOne ⟨m * 2 ^ k, false, false⟩ = _
  induction k generalizing m with
  | zero => rw [Nat.pow_zero, Nat.mul_one, Nat.repeat]
  | succ k ih =>
    rw [Nat.repeat, Nat.pow_succ', ← Nat.mul_assoc, ih]
    simp [ExtendedMantissa.shiftRightOne]

theorem shiftToTargetExponent_zeros (h : IsCanonical m e) (k : Nat) :
    UnpackedFloat.shiftToTargetExponent .binary64 (m * 2 ^ k) (e - k) .exact =
      (⟨m, false, false⟩, e) := by
  have htarget : Format.binary64.targetExponent (Float.Model.totalExponent (m * 2 ^ k) (e - k)) =
      e := by
    have hmax := h.max_eq
    rw [targetExponent_eq, log2_mul_two_pow h.pos.ne']
    omega
  have hshift : (e - (e - k)).toNat = k := by omega
  unfold UnpackedFloat.shiftToTargetExponent UnpackedFloat.shiftToExponent
  dsimp only
  rw [htarget, hshift]
  refine Prod.ext (shiftRight_zeros m k) ?_
  show e - k + k = e
  omega

/-- A double with zeros behind its mantissa is rounded to itself. -/
theorem roundWithAccuracy_eq (h : IsCanonical m e) (s : Sign) (k : Nat) :
    UnpackedFloat.roundWithAccuracy .binary64 s (m * 2 ^ k) (e - k) .exact =
      .finite s m e h.pos := by
  have hagain := shiftToTargetExponent_zeros h 0
  rw [Nat.pow_zero, Nat.mul_one, Nat.cast_zero, sub_zero] at hagain
  unfold UnpackedFloat.roundWithAccuracy
  rw [shiftToTargetExponent_zeros h k]
  show (let (final, exponent) := UnpackedFloat.shiftToTargetExponent .binary64 m e .exact
    if h : final.mantissa = 0 then UnpackedFloat.zero s
    else .finite s final.mantissa exponent (Nat.pos_of_ne_zero h)) = _
  rw [hagain]
  exact dif_neg h.pos.ne'

theorem roundWithAccuracy_of_value_eq (h : IsCanonical m e) (s : Sign)
    (hvalue : value n f = value m e) (hle : f ≤ e) :
    UnpackedFloat.roundWithAccuracy .binary64 s n f .exact = .finite s m e h.pos := by
  have hexponent : f = e - ((e - f).toNat : Int) := by omega
  rw [eq_of_value_eq hvalue hle]
  nth_rewrite 2 [hexponent]
  exact roundWithAccuracy_eq h s _

/-! ## Products and quotients -/

variable {m₁ m₂ : Nat} {e₁ e₂ : Int} {s₁ s₂ : Sign} {h₁ : 0 < m₁} {h₂ : 0 < m₂}

theorem mul_eq (h : IsCanonical m e) (hvalue : value m₁ e₁ * value m₂ e₂ = value m e)
    (hle : e₁ + e₂ ≤ e) :
    UnpackedFloat.mul .binary64 (.finite s₁ m₁ e₁ h₁) (.finite s₂ m₂ e₂ h₂) =
      .finite (s₁ * s₂) m e h.pos := by
  rw [value_mul] at hvalue
  exact roundWithAccuracy_of_value_eq h (s₁ * s₂) hvalue hle

theorem div_eq (h : IsCanonical m e) (hvalue : value m₁ e₁ = value m e * value m₂ e₂) :
    UnpackedFloat.div .binary64 (.finite s₁ m₁ e₁ h₁) (.finite s₂ m₂ e₂ h₂) =
      .finite (s₁ / s₂) m e h.pos := by
  have hlog : (m₁.log2 : Int) + e₁ < m.log2 + 1 + e + (m₂.log2 + 1 + e₂) := by
    have hupper : value m₁ e₁ < (2 : ℚ) ^ ((m.log2 + 1 + e : Int) + (m₂.log2 + 1 + e₂)) := by
      rw [hvalue, zpow_add₀ two_ne_zero]
      have hnonneg : 0 ≤ value m₂ e₂ := mul_nonneg (Nat.cast_nonneg m₂) (zpow_nonneg zero_le_two e₂)
      exact mul_lt_mul'' (value_lt_two_zpow m e) (value_lt_two_zpow m₂ e₂)
        (mul_nonneg (Nat.cast_nonneg m) (zpow_nonneg zero_le_two e)) hnonneg
    have hbetween := (two_zpow_le_value h₁.ne').trans_lt hupper
    exact (zpow_lt_zpow_iff_right₀ one_lt_two).mp hbetween
  -- The quotient is computed to this place, which is not above that of the result.
  let place := min (e₁ - e₂) (Format.binary64.targetExponent
    (Float.Model.totalExponent m₁ e₁ - Float.Model.totalExponent m₂ e₂))
  have hplace : place ≤ e := by
    have hmax := h.max_eq
    have htarget : Format.binary64.targetExponent
        (Float.Model.totalExponent m₁ e₁ - Float.Model.totalExponent m₂ e₂) =
        max ((m₁.log2 + 1 + e₁ : Int) - (m₂.log2 + 1 + e₂) - 53) (-1074) := rfl
    omega
  have hshifted : m₁ <<< (e₁ - e₂ - place).toNat = m * 2 ^ (e - place).toNat * m₂ := by
    have hexponent : place + e₂ + ((e₁ - e₂ - place).toNat : Int) = e₁ := by omega
    have hsame : value (m₁ * 2 ^ (e₁ - e₂ - place).toNat) (place + e₂) =
        value (m * m₂) (e + e₂) := by
      rw [value_mul_two_pow, hexponent, hvalue, value_mul]
    rw [Nat.shiftLeft_eq, eq_of_value_eq hsame (by omega), Nat.mul_right_comm]
    congr 3
    omega
  show (let (q, exponent, accuracy) := UnpackedFloat.divCore .binary64 m₁ e₁ m₂ e₂
    UnpackedFloat.roundWithAccuracy .binary64 (s₁ / s₂) q exponent accuracy) = _
  have hcore : UnpackedFloat.divCore .binary64 m₁ e₁ m₂ e₂ =
      (m * 2 ^ (e - place).toNat, place, .exact) := by
    show ((m₁ <<< (e₁ - e₂ - place).toNat) / m₂, place,
      UnpackedFloat.accuracyOfFraction ((m₁ <<< (e₁ - e₂ - place).toNat) % m₂) m₂) = _
    rw [hshifted, Nat.mul_div_cancel _ h₂, Nat.mul_mod_left]
    rfl
  rw [hcore]
  have hexponent : place = e - ((e - place).toNat : Int) := by omega
  dsimp only
  nth_rewrite 2 [hexponent]
  exact roundWithAccuracy_eq h (s₁ / s₂) _

theorem ofParts_mul (h₁ : IsCanonical m₁ e₁) (h₂ : IsCanonical m₂ e₂) (h : IsCanonical m e)
    (hvalue : value m₁ e₁ * value m₂ e₂ = value m e) (hle : e₁ + e₂ ≤ e) :
    ofParts .positive m₁ e₁ h₁.pos * ofParts .positive m₂ e₂ h₂.pos =
      ofParts .positive m e h.pos := by
  show Float.ofModel (.pack (UnpackedFloat.mul .binary64
    (ofParts .positive m₁ e₁ h₁.pos).toModel.unpack
    (ofParts .positive m₂ e₂ h₂.pos).toModel.unpack)) = _
  rw [unpack_ofParts h₁, unpack_ofParts h₂, mul_eq h hvalue hle]
  rfl

theorem ofParts_div (h₁ : IsCanonical m₁ e₁) (h₂ : IsCanonical m₂ e₂) (h : IsCanonical m e)
    (hvalue : value m₁ e₁ = value m e * value m₂ e₂) :
    ofParts .positive m₁ e₁ h₁.pos / ofParts .positive m₂ e₂ h₂.pos =
      ofParts .positive m e h.pos := by
  show Float.ofModel (.pack (UnpackedFloat.div .binary64
    (ofParts .positive m₁ e₁ h₁.pos).toModel.unpack
    (ofParts .positive m₂ e₂ h₂.pos).toModel.unpack)) = _
  rw [unpack_ofParts h₁, unpack_ofParts h₂, div_eq h hvalue]
  rfl

/-! ## Whole numbers -/

/-- The double is the given number, and its mantissa has all bits. -/
structure IsWhole (n : Nat) (x : Float) (m : Nat) (e : Int) : Prop extends IsCanonical m e where
  eq : x = ofParts .positive m e pos
  value_eq : value m e = n
  normal : 2 ^ 52 ≤ m

theorem isWhole_toFloat (hn : 0 < n) (hlt : n < 2 ^ 53) :
    IsWhole n n.toUInt64.toFloat (n * 2 ^ (52 - n.log2)) (n.log2 - 52) := by
  have hlog : n.log2 ≤ 52 := Nat.le_of_lt_succ ((Nat.log2_lt hn.ne').mpr hlt)
  have hlower : 2 ^ 52 ≤ n * 2 ^ (52 - n.log2) := by
    calc 2 ^ 52 = 2 ^ n.log2 * 2 ^ (52 - n.log2) := by rw [← Nat.pow_add]; congr 1; omega
      _ ≤ n * 2 ^ (52 - n.log2) := Nat.mul_le_mul_right _ (Nat.log2_self_le hn.ne')
  have hupper : n * 2 ^ (52 - n.log2) < 2 ^ 53 := by
    calc n * 2 ^ (52 - n.log2) < 2 ^ (n.log2 + 1) * 2 ^ (52 - n.log2) :=
        Nat.mul_lt_mul_of_pos_right Nat.lt_log2_self (Nat.two_pow_pos _)
      _ = 2 ^ 53 := by rw [← Nat.pow_add]; congr 1; omega
  have hcanonical : IsCanonical (n * 2 ^ (52 - n.log2)) (n.log2 - 52) :=
    ⟨by omega, hupper, Or.inl hlower, by omega, by omega⟩
  refine ⟨hcanonical, ?_, ?_, hlower⟩
  · have hword : n.toUInt64.toNat = n := by
      show n % 2 ^ 64 = n
      omega
    have hshift : (0 - max ((n.log2 : Int) + 1 + 0 - 53) (-1074)).toNat = 52 - n.log2 := by omega
    have hexponent : (0 : Int) - (52 - n.log2 : Nat) = n.log2 - 52 - (0 : Nat) := by omega
    have hround : UnpackedFloat.round .binary64 .positive n 0 =
        .finite .positive (n * 2 ^ (52 - n.log2)) (n.log2 - 52) hcanonical.pos := by
      unfold UnpackedFloat.round UnpackedFloat.decreaseExponent
      rw [targetExponent_eq]
      dsimp only
      rw [hshift, Nat.shiftLeft_eq, hexponent, ← roundWithAccuracy_eq hcanonical .positive 0,
        Nat.pow_zero, Nat.mul_one]
    show Float.ofModel
      (.pack (UnpackedFloat.normalize .binary64 (n.toUInt64.toNat : Int) 0 .positive)) = _
    rw [hword]
    unfold UnpackedFloat.normalize
    rw [Int.compare_eq_gt.mpr (by omega)]
    exact congrArg (fun x => Float.ofModel (.pack x)) hround
  · rw [value_mul_two_pow, ← value_natCast]
    congr 1
    omega

/-- The parts are those of the given number. -/
def isWholeParts (n : Nat) : UnpackedFloat → Bool
  | .finite .positive m e _ =>
    2 ^ 52 ≤ m && decide (-52 ≤ e) && m * 2 ^ (e + 52).toNat == n * 2 ^ 52
  | _ => false

theorem isWhole_of_isWholeParts {x : Float} (h : isWholeParts n x.toModel.unpack = true) :
    ∃ m e, IsWhole n x m e := by
  cases hx : x.toModel.unpack with
  | finite s m e hm =>
    rw [hx] at h
    cases s with
    | negative => cases h
    | positive =>
      change (decide (2 ^ 52 ≤ m) && decide (-52 ≤ e) && m * 2 ^ (e + 52).toNat == n * 2 ^ 52) =
        true at h
      simp only [Bool.and_eq_true, decide_eq_true_eq, beq_iff_eq] at h
      obtain ⟨⟨hnormal, hge⟩, hn⟩ := h
      obtain ⟨hcanonical, heq⟩ := ofParts_of_unpack hx
      refine ⟨m, e, hcanonical, heq, ?_, hnormal⟩
      have hexponent : e = -52 + ((e + 52).toNat : Int) := by omega
      have hback : ((0 : Int) = -52 + (52 : Nat)) := rfl
      rw [hexponent, ← value_mul_two_pow, hn, value_mul_two_pow, ← hback, value_natCast]
  | _ => rw [hx] at h; cases h

/-- The powers of ten that are kept in a table are exact. -/
theorem isWholeParts_powersOfTen :
    ∀ k, (hk : k < Float.exactlyRepresentablePowersOfTen.size) →
      isWholeParts (10 ^ k) Float.exactlyRepresentablePowersOfTen[k].toModel.unpack = true := by
  decide +kernel

theorem exists_isWhole_powerOfTen (hk : k < Float.exactlyRepresentablePowersOfTen.size) :
    ∃ m e, IsWhole (10 ^ k) Float.exactlyRepresentablePowersOfTen[k] m e :=
  isWhole_of_isWholeParts (isWholeParts_powersOfTen k hk)

/-! ## Reading -/

theorem IsCanonical.value_lt (h : IsCanonical m e) : value m e < (2 : ℚ) ^ (1024 : Int) := by
  have hlog := h.log2_le
  have hle := h.le
  exact (value_lt_two_zpow m e).trans_le (zpow_le_zpow_right₀ one_le_two (by omega))

theorem IsCanonical.le_value (h : IsCanonical m e) : (2 : ℚ) ^ (-1074 : Int) ≤ value m e := by
  have hge := h.ge
  exact (zpow_le_zpow_right₀ one_le_two (by omega)).trans (two_zpow_le_value h.pos.ne')

theorem two_pow_le_ten_pow (k : Nat) : (2 : ℚ) ^ (3 * k : Int) ≤ value (10 ^ k) 0 := by
  rw [value_natCast, zpow_mul]
  push_cast
  rw [zpow_natCast]
  exact pow_le_pow_left₀ (by norm_num) (by norm_num) k

/-- A number divided by a power of ten, read by a table if both are short and by exact arithmetic if
not. -/
theorem ofScientific_div (hn : 0 < n) (hk : 0 < k) (h : IsCanonical m e)
    (hvalue : value n 0 = value m e * value (10 ^ k) 0) :
    Float.ofScientific n true k = ofParts .positive m e h.pos := by
  unfold Float.ofScientific
  by_cases hshort : n < 2 ^ 53 ∧ k ≤ 22
  · have hsize : k < Float.exactlyRepresentablePowersOfTen.size := Nat.lt_succ_of_le hshort.2
    obtain ⟨m₂, e₂, hten⟩ := exists_isWhole_powerOfTen hsize
    have hwhole := isWhole_toFloat hn hshort.1
    rw [dif_pos hshort]
    dsimp only
    rw [if_pos rfl, hwhole.eq, hten.eq]
    apply ofParts_div hwhole.toIsCanonical hten.toIsCanonical h
    rw [hwhole.value_eq, hten.value_eq, ← value_natCast, ← value_natCast]
    exact hvalue
  · have hlog : 3 * (k : Int) - 1074 < n.log2 + 1 := by
      have hlower : (2 : ℚ) ^ (-1074 + 3 * k : Int) ≤ value n 0 := by
        rw [hvalue, zpow_add₀ two_ne_zero]
        exact mul_le_mul h.le_value (two_pow_le_ten_pow k) (zpow_nonneg zero_le_two _)
          ((zpow_nonneg zero_le_two _).trans h.le_value)
      have hbetween := hlower.trans_lt (value_lt_two_zpow n 0)
      have := (zpow_lt_zpow_iff_right₀ one_lt_two).mp hbetween
      omega
    have hhigh : ¬(-(k : Int) > 2 ^ 11) := by omega
    have hlow : ¬(-(k : Int) < -((2 ^ 11 : Int) + n.log2)) := by omega
    have hneg : ¬(0 : Int) ≤ -k := by omega
    have hpower : UnpackedFloat.finite .positive (10 ^ (-(-(k : Int))).toNat) 0
        (Nat.pow_pos (by decide)) = .finite .positive (10 ^ k) 0 (Nat.pow_pos (by decide)) :=
      finite_congr _ _ (congrArg (10 ^ ·) (by omega)) rfl
    rw [dif_neg hshort]
    dsimp only
    rw [if_pos rfl]
    show Float.ofModel (.pack (UnpackedFloat.ofScientific .binary64 n (Int.negOfNat k))) = _
    unfold UnpackedFloat.ofScientific
    rw [Int.negOfNat_eq, Int.ofNat_eq_natCast, dif_neg hn.ne', if_neg hhigh, if_neg hlow,
      if_neg hneg]
    rw [hpower, div_eq h hvalue]
    rfl

/-- A number times a power of ten, read in the same two ways. -/
theorem ofScientific_mul (hn : 0 < n) (h : IsCanonical m e)
    (hvalue : value n 0 * value (10 ^ k) 0 = value m e) :
    Float.ofScientific n false k = ofParts .positive m e h.pos := by
  have hlog_le := h.log2_le
  unfold Float.ofScientific
  by_cases hshort : n < 2 ^ 53 ∧ k ≤ 22
  · have hsize : k < Float.exactlyRepresentablePowersOfTen.size := Nat.lt_succ_of_le hshort.2
    obtain ⟨m₂, e₂, hten⟩ := exists_isWhole_powerOfTen hsize
    have hwhole := isWhole_toFloat hn hshort.1
    rw [dif_pos hshort]
    dsimp only
    rw [if_neg Bool.false_ne_true, hwhole.eq, hten.eq]
    have hparts : value (n * 2 ^ (52 - n.log2)) (n.log2 - 52) * value m₂ e₂ = value m e := by
      rw [hwhole.value_eq, hten.value_eq, ← value_natCast, ← value_natCast]
      exact hvalue
    apply ofParts_mul hwhole.toIsCanonical hten.toIsCanonical h hparts
    -- Both mantissas are full, so the last place of the result lies above that of the product.
    have hfull : 2 ^ (52 + 52) ≤ n * 2 ^ (52 - n.log2) * m₂ := by
      rw [Nat.pow_add]
      exact Nat.mul_le_mul hwhole.normal hten.normal
    have hlog := (Nat.le_log2 (by omega)).mpr hfull
    rw [value_mul] at hparts
    have hsame := log2_add_eq (by omega) h.pos.ne' hparts
    omega
  · have hone : (2 : ℚ) ^ (0 : Int) ≤ value n 0 := by
      rw [value_natCast, zpow_zero]
      exact_mod_cast hn
    have hlarge : (2 : ℚ) ^ (0 + 3 * k : Int) ≤ value m e := by
      rw [← hvalue, zpow_add₀ two_ne_zero]
      exact mul_le_mul hone (two_pow_le_ten_pow k) (zpow_nonneg zero_le_two _)
        ((zpow_nonneg zero_le_two _).trans hone)
    have hk := (zpow_lt_zpow_iff_right₀ one_lt_two).mp (hlarge.trans_lt h.value_lt)
    have hplace := (zpow_lt_zpow_iff_right₀ one_lt_two).mp (hlarge.trans_lt (value_lt_two_zpow m e))
    have hhigh : ¬((k : Int) > 2 ^ 11) := by omega
    have hlow : ¬((k : Int) < -((2 ^ 11 : Int) + n.log2)) := by omega
    have hshifted : value (n <<< Format.binary64.mantissaBits)
        (-(Format.binary64.mantissaBits : Int)) * value (10 ^ k) 0 = value m e := by
      rw [Nat.shiftLeft_eq, value_mul_two_pow, neg_add_cancel]
      exact hvalue
    have hle : -(Format.binary64.mantissaBits : Int) + 0 ≤ e := by
      show (-53 : Int) + 0 ≤ e
      omega
    rw [dif_neg hshort]
    dsimp only
    rw [if_neg Bool.false_ne_true]
    show Float.ofModel (.pack (UnpackedFloat.ofScientific .binary64 n (k : Int))) = _
    unfold UnpackedFloat.ofScientific
    rw [dif_neg hn.ne', if_neg hhigh, if_neg hlow, if_pos (by omega)]
    dsimp only [Int.toNat_natCast]
    rw [mul_eq h hshifted hle]
    rfl

end Double

namespace Decimal

open Double

theorem lt_ten_pow_width (n : Nat) : n < 10 ^ width n :=
  (Nat.length_toDigits_le_iff (by decide) Nat.length_toDigits_pos).mp (Nat.le_refl _)

theorem ten_pow_le_of_lt_width {n k : Nat} (hn : 0 < n) (h : k < width n) : 10 ^ k ≤ n := by
  by_contra hlt
  rcases Nat.eq_zero_or_pos k with rfl | hk
  · omega
  · have := (Nat.length_toDigits_le_iff (by decide) hk).mpr (Nat.not_le.mp hlt)
    unfold width at h
    omega

theorem two_zpow_le_ten_zpow : (2 : ℚ) ^ (1024 : Int) ≤ 10 ^ (310 : Int) := by
  have hnat : 2 ^ 1024 ≤ 10 ^ 310 := by decide +kernel
  exact_mod_cast hnat

theorem ten_zpow_neg_le_two_zpow_neg : (10 : ℚ) ^ (-330 : Int) ≤ 2 ^ (-1074 : Int) := by
  have hnat : 2 ^ 1074 ≤ 10 ^ 330 := by decide +kernel
  rw [zpow_neg, zpow_neg]
  apply inv_anti₀ (by positivity)
  exact_mod_cast hnat

/-- A decimal that is exactly a double is read as it. -/
theorem nearest_eq_ofParts {n m : Nat} {g e : Int} (h : IsCanonical m e)
    (hvalue : n * (10 : ℚ) ^ g = value m e) : nearest n g = ofParts .positive m e h.pos := by
  have hpositive : 0 < value m e := (zpow_pos two_pos _).trans_le h.le_value
  have hn : 0 < n := by
    rcases Nat.eq_zero_or_pos n with rfl | hn
    · rw [← hvalue, Nat.cast_zero, zero_mul] at hpositive
      exact absurd hpositive (lt_irrefl 0)
    · exact hn
  have hten : (0 : ℚ) ≤ 10 ^ g := zpow_nonneg (by norm_num) g
  have hhigh : ¬310 < width n + g := by
    intro hlarge
    have hbound : (10 : ℚ) ^ (310 : Int) ≤ value m e := by
      have hdigits : ((10 ^ (width n - 1) : Nat) : ℚ) ≤ n := by
        have hwidth : 0 < width n := Nat.length_toDigits_pos
        exact_mod_cast ten_pow_le_of_lt_width hn (Nat.sub_lt hwidth Nat.one_pos)
      calc (10 : ℚ) ^ (310 : Int) ≤ 10 ^ ((width n - 1 : Nat) + g) :=
          zpow_le_zpow_right₀ (by norm_num) (by omega)
        _ = ((10 ^ (width n - 1) : Nat) : ℚ) * 10 ^ g := by
          rw [zpow_add₀ (by norm_num), zpow_natCast]
          push_cast
          rfl
        _ ≤ n * 10 ^ g := mul_le_mul_of_nonneg_right hdigits hten
        _ = value m e := hvalue
    exact absurd (hbound.trans_lt h.value_lt) (not_lt.mpr two_zpow_le_ten_zpow)
  have hlow : ¬width n + g < -330 := by
    intro hsmall
    have hbound : value m e < (10 : ℚ) ^ (-330 : Int) := by
      have hdigits : (n : ℚ) < ((10 ^ width n : Nat) : ℚ) := by exact_mod_cast lt_ten_pow_width n
      calc value m e = n * 10 ^ g := hvalue.symm
        _ < ((10 ^ width n : Nat) : ℚ) * 10 ^ g :=
          mul_lt_mul_of_pos_right hdigits (zpow_pos (by norm_num) g)
        _ = 10 ^ (width n + g) := by
          rw [zpow_add₀ (by norm_num), zpow_natCast]
          push_cast
          rfl
        _ ≤ 10 ^ (-330 : Int) := zpow_le_zpow_right₀ (by norm_num) (by omega)
    exact absurd (h.le_value.trans_lt hbound) (not_lt.mpr ten_zpow_neg_le_two_zpow_neg)
  unfold nearest
  rw [if_neg hn.ne', if_neg hhigh, if_neg hlow]
  by_cases hg : g < 0
  · rw [decide_eq_true hg]
    apply ofScientific_div hn (by omega) h
    have hpower : (10 : ℚ) ^ g * 10 ^ g.natAbs = 1 := by
      rw [← zpow_natCast, ← zpow_add₀ (by norm_num), show g + (g.natAbs : Int) = 0 by omega,
        zpow_zero]
    rw [value_natCast, value_natCast, ← hvalue, mul_assoc]
    push_cast
    rw [hpower, mul_one]
  · rw [decide_eq_false hg]
    apply ofScientific_mul hn h
    have hpower : (10 : ℚ) ^ g.natAbs = 10 ^ g := by
      rw [← zpow_natCast, show (g.natAbs : Int) = g by omega]
    rw [value_natCast, value_natCast, ← hvalue]
    push_cast
    rw [hpower]

end Decimal
end Filament
