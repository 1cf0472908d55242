import Mathlib.Tactic.FieldSimp
import Filament.Decimal.Shortest
import Filament.Proofs.Alike
import Filament.Proofs.Normalize
import Filament.Proofs.Representable

/-!
The decimal that is written for a double.

Every finite double has one, it has no trailing zeros, and it is read as the double that it was
written for, the sign of a zero included (`exists_shortest?`). A decimal found on one of the grids
was tried; the exact value, which stands in if none is found, is read as the double since it needs
no rounding.
-/

namespace Filament
namespace Decimal

open Double
open Float.Model (Format UnpackedFloat)
open Float.Model.UnpackedFloat (Sign)

variable {m : Nat} {e : Int} {s : Sign}

/-! ## The exact value -/

/-- The fraction is the absolute value, and its denominator is a power of two. -/
theorem exists_fraction (h : IsCanonical m e) (s : Sign) :
    ∃ num k : Nat, fraction (ofParts s m e h.pos) = (num, 2 ^ k) ∧ value num (-k) = value m e := by
  have hhidden : hiddenBit = 2 ^ 52 := by decide
  unfold fraction
  dsimp only
  cases hasBits_of_unpack (unpack_ofParts h s) with
  | subnormal M hM hb =>
    obtain ⟨hexponent, hmantissa, -⟩ := fields hb
    rw [hexponent, hmantissa, if_pos BitVec.toNat_zero]
    generalize hk : 1074 = k
    refine ⟨M.toNat, k, rfl, ?_⟩
    rw [← hk]
    rfl
  | normal E M hzero hones hb =>
    obtain ⟨hexponent, hmantissa, -⟩ := fields hb
    have hne : E.toNat ≠ 0 := fun h0 => hzero (BitVec.eq_of_toNat_eq h0)
    rw [hexponent, hmantissa, if_neg hne]
    by_cases hlarge : 1075 ≤ E.toNat
    · rw [if_pos hlarge, hhidden, Nat.pow_eq]
      refine ⟨_, 0, rfl, ?_⟩
      rw [value_mul_two_pow]
      exact congrArg (value _) (by omega)
    · rw [if_neg hlarge, hhidden, Nat.pow_eq]
      exact ⟨_, 1075 - E.toNat, rfl, congrArg (value _) (by omega)⟩

/-- A decimal without a sign that is exactly a double is read as it. -/
theorem toFloat_eq_ofParts {n : Nat} {g : Int} (h : IsCanonical m e)
    (hvalue : n * (10 : ℚ) ^ g = value m e) :
    toFloat { negative := false, digits := n, exponent := g } = ofParts .positive m e h.pos := by
  have hn : n ≠ 0 := by
    rintro rfl
    have hpositive : 0 < value m e := (zpow_pos two_pos _).trans_le h.le_value
    rw [← hvalue, Nat.cast_zero, zero_mul] at hpositive
    exact lt_irrefl 0 hpositive
  obtain ⟨digits, k, hstrip, hdigits, -⟩ := exists_stripZeros hn g
  unfold toFloat normalize
  rw [hstrip]
  dsimp only
  rw [if_neg Bool.false_ne_true]
  apply nearest_eq_ofParts h
  rw [← hvalue, hdigits, zpow_add₀ (by norm_num), zpow_natCast]
  push_cast
  ring

theorem toFloat_exact {num k : Nat} (h : IsCanonical m e) (hvalue : value num (-k) = value m e) :
    (exact num (2 ^ k)).toFloat = ofParts .positive m e h.pos := by
  unfold exact
  rw [Nat.log2_two_pow]
  apply toFloat_eq_ofParts h
  rw [← hvalue]
  unfold value
  show ((num * 5 ^ k : Nat) : ℚ) * 10 ^ (-k : Int) = num * 2 ^ (-k : Int)
  rw [zpow_neg, zpow_neg, zpow_natCast, zpow_natCast, show (10 : ℚ) = 5 * 2 by norm_num, mul_pow]
  push_cast
  field_simp

/-! ## The search -/

/-- A decimal found on a grid was tried. -/
theorem onGrid?_spec {tie : Tie} {x : Float} {num den : Nat} {g : Int} {d : Decimal}
    (h : onGrid? tie x num den g = some d) : d.negative = false ∧ (d.toFloat == x) = true := by
  unfold onGrid? at h
  dsimp only at h
  split at h
  · rename_i hlow hhigh
    cases h
    exact ⟨rfl, hlow⟩
  · rename_i hlow hhigh
    cases h
    exact ⟨rfl, hhigh⟩
  · cases h
  · rename_i hlow hhigh
    split at h
    · cases h
      exact ⟨rfl, hlow⟩
    · cases h
      exact ⟨rfl, hhigh⟩
    · split at h
      · cases h
        exact ⟨rfl, hlow⟩
      · cases h
        exact ⟨rfl, hhigh⟩

theorem eq_ofParts_of_beq {x : Float} (h : IsCanonical m e)
    (hbeq : (x == ofParts s m e h.pos) = true) : x = ofParts s m e h.pos := by
  have halike := Alike.of_beq hbeq
  unfold Alike at halike
  rw [unpack_ofParts h] at halike
  generalize hx : x.toModel.unpack = u at halike
  cases halike
  exact (ofParts_of_unpack hx).2

/-- What is written for a positive double is read as it. -/
theorem shortestPositive_spec (tie : Tie) (h : IsCanonical m e) :
    (shortestPositive tie (ofParts .positive m e h.pos)).negative = false ∧
      (shortestPositive tie (ofParts .positive m e h.pos)).toFloat =
        ofParts .positive m e h.pos := by
  obtain ⟨num, k, hfraction, hvalue⟩ := exists_fraction h .positive
  unfold shortestPositive
  rw [hfraction]
  dsimp only
  rw [toFloat_normalize]
  cases hhit : (List.range 17).findSome? fun i : Nat =>
      onGrid? tie (ofParts .positive m e h.pos) num (2 ^ k) (scale num (2 ^ k) - (i + 1)) with
  | none => exact ⟨rfl, toFloat_exact h hvalue⟩
  | some d =>
    obtain ⟨i, -, hd⟩ := List.exists_of_findSome?_eq_some hhit
    obtain ⟨hsign, hbeq⟩ := onGrid?_spec hd
    exact ⟨hsign, eq_ofParts_of_beq h hbeq⟩

/-! ## Signs -/

theorem isNegative_ofParts (h : IsCanonical m e) (s : Sign) :
    isNegative (ofParts s m e h.pos) = (s == .negative) := by
  have hsign : ((ofParts s m e h.pos).toBits >>> 63).toNat = s.toBitVec.toNat := by
    cases hasBits_of_unpack (unpack_ofParts h s) with
    | subnormal M hM hb => exact (fields hb).2.2
    | normal E M hzero hones hb => exact (fields hb).2.2
  unfold isNegative
  rw [Bool.eq_iff_iff, beq_iff_eq, ← UInt64.toNat_inj, hsign]
  cases s <;> decide

theorem neg_ofParts (h : IsCanonical m e) (s : Sign) :
    -ofParts s m e h.pos = ofParts (-s) m e h.pos := by
  show Float.ofModel (.pack (ofParts s m e h.pos).toModel.unpack.neg) = _
  rw [unpack_ofParts h]
  rfl

theorem normalize_withSign {d : Decimal} (h : d.normalize = d) (negative : Bool) :
    normalize { d with negative } = { d with negative } := by
  show ({ d.normalize with negative } : Decimal) = _
  rw [h]

theorem toFloat_withSign {d : Decimal} (hsign : d.negative = false) {x : Float} (h : d.toFloat = x)
    (negative : Bool) : toFloat { d with negative } = if negative then -x else x := by
  unfold toFloat at h ⊢
  rw [if_neg (hsign ▸ Bool.false_ne_true)] at h
  show (if negative then -nearest d.normalize.digits d.normalize.exponent
    else nearest d.normalize.digits d.normalize.exponent) = _
  rw [h]

theorem beq_zero_of_unpack_zero {x : Float} (h : x.toModel.unpack = .zero s) : (x == 0) = true := by
  show (x.toModel.unpack.compare (Scalar.zero : Float).toModel.unpack == some .eq) = true
  rw [h, unpack_zero]
  rfl

theorem beq_zero_ofParts (h : IsCanonical m e) : (ofParts s m e h.pos == 0) = false := by
  show ((ofParts s m e h.pos).toModel.unpack.compare (Scalar.zero : Float).toModel.unpack ==
    some .eq) = false
  rw [unpack_ofParts h, unpack_zero]
  cases s <;> rfl

theorem shortest?_ofParts (tie : Tie) (h : IsCanonical m e) (s : Sign)
    (hfinite : (ofParts s m e h.pos).isFinite = true) :
    shortest? tie (ofParts s m e h.pos) = some
      { shortestPositive tie (ofParts .positive m e h.pos) with negative := s == .negative } := by
  have habs : (if isNegative (ofParts s m e h.pos) then -ofParts s m e h.pos
      else ofParts s m e h.pos) = ofParts .positive m e h.pos := by
    rw [isNegative_ofParts h, neg_ofParts h]
    cases s <;> rfl
  unfold shortest?
  rw [if_pos hfinite, beq_zero_ofParts h, if_neg Bool.false_ne_true, habs, isNegative_ofParts h]

/-- The decimal of a finite double has no trailing zeros and is read as the double. -/
theorem exists_shortest? (tie : Tie) {x : Float} (h : x.isFinite = true) :
    ∃ d, shortest? tie x = some d ∧ d.normalize = d ∧ d.toFloat = x := by
  have hfinite : x.toModel.unpack.isFinite = true := h
  cases hx : x.toModel.unpack with
  | notANumber => rw [hx] at hfinite; cases hfinite
  | infinity s => rw [hx] at hfinite; cases hfinite
  | zero s =>
    unfold shortest?
    rw [if_pos h, beq_zero_of_unpack_zero hx, if_pos rfl, eq_of_unpack_zero hx]
    refine ⟨_, rfl, ?_⟩
    cases s
    · exact ⟨by decide +kernel, by decide +kernel⟩
    · exact ⟨by decide +kernel, by decide +kernel⟩
  | finite s m e hm =>
    obtain ⟨hcanonical, rfl⟩ := ofParts_of_unpack hx
    obtain ⟨hsign, hread⟩ := shortestPositive_spec tie hcanonical
    have hnormal : (shortestPositive tie (ofParts .positive m e hm)).normalize =
        shortestPositive tie (ofParts .positive m e hm) := normalize_normalize _
    refine ⟨_, shortest?_ofParts tie hcanonical s h, normalize_withSign hnormal _, ?_⟩
    rw [toFloat_withSign hsign hread, neg_ofParts hcanonical]
    cases s <;> rfl

end Decimal
end Filament
