import Filament.Decimal.Basic
import Mathlib.Tactic.Ring

/-!
Decimals without trailing zeros.

`Decimal.normalize` depends on the number alone, so a decimal may be scaled without the double that
it is read as being another one.
-/

namespace Filament
namespace Decimal

variable {d : Decimal}

theorem stripZeros_zero (e : Int) : stripZeros 0 e = (0, 0) := by
  unfold stripZeros
  rw [if_pos rfl]

theorem stripZeros_mul_ten_pow (n k : Nat) (e : Int) :
    stripZeros (n * 10 ^ k) e = stripZeros n (e + k) := by
  rcases Nat.eq_zero_or_pos n with rfl | hn
  · rw [Nat.zero_mul, stripZeros_zero, stripZeros_zero]
  · induction k generalizing e with
    | zero => rw [Nat.pow_zero, Nat.mul_one, Nat.cast_zero, add_zero]
    | succ k ih =>
      have hpos : 0 < n * 10 ^ k := Nat.mul_pos hn (Nat.pow_pos (by decide))
      have hten : n * 10 ^ (k + 1) = n * 10 ^ k * 10 := by rw [Nat.pow_succ, Nat.mul_assoc]
      rw [stripZeros, hten, if_neg (by omega), if_pos (Nat.mul_mod_left _ _),
        Nat.mul_div_cancel _ (by decide), ih]
      congr 1
      push_cast
      ring

/-- What is stripped is a power of ten. -/
theorem exists_stripZeros {n : Nat} (hn : n ≠ 0) (e : Int) :
    ∃ m k : Nat, stripZeros n e = (m, e + k) ∧ n = m * 10 ^ k ∧ m % 10 ≠ 0 := by
  fun_induction stripZeros n e with
  | case1 => exact absurd rfl hn
  | case2 n e hne hten ih =>
    obtain ⟨m, k, hstrip, hm, hlast⟩ := ih (by omega)
    refine ⟨m, k + 1, ?_, ?_, hlast⟩
    · rw [hstrip]
      push_cast
      rw [add_assoc, add_comm 1 (k : Int)]
    · rw [Nat.pow_succ, ← Nat.mul_assoc, ← hm]
      omega
  | case3 n e hne hlast => exact ⟨n, 0, by simp, by simp, hlast⟩

theorem stripZeros_of_mod_ne_zero {n : Nat} (h : n % 10 ≠ 0) (e : Int) :
    stripZeros n e = (n, e) := by
  rw [stripZeros, if_neg (by omega), if_neg h]

/-! ## Normal decimals -/

theorem normalize_normalize (d : Decimal) : d.normalize.normalize = d.normalize := by
  by_cases hzero : d.digits = 0
  · unfold normalize
    rw [hzero, stripZeros_zero]
    dsimp only
    rw [stripZeros_zero]
  · obtain ⟨m, k, hstrip, -, hlast⟩ := exists_stripZeros hzero d.exponent
    unfold normalize
    rw [hstrip]
    dsimp only
    rw [stripZeros_of_mod_ne_zero hlast]

theorem toFloat_normalize (d : Decimal) : d.normalize.toFloat = d.toFloat := by
  have hsign : d.normalize.negative = d.negative := rfl
  unfold toFloat
  rw [normalize_normalize, hsign]

/-- Of a normal decimal the last digit is not zero, or it is zero itself and has the exponent
zero. -/
theorem normalize_eq_self_iff :
    d.normalize = d ↔ d.digits = 0 ∧ d.exponent = 0 ∨ d.digits % 10 ≠ 0 := by
  constructor
  · intro h
    rw [← h]
    by_cases hzero : d.digits = 0
    · left
      unfold normalize
      rw [hzero, stripZeros_zero]
      exact ⟨rfl, rfl⟩
    · right
      obtain ⟨m, k, hstrip, -, hlast⟩ := exists_stripZeros hzero d.exponent
      unfold normalize
      rw [hstrip]
      exact hlast
  · rintro (⟨hdigits, hexponent⟩ | hlast)
    · unfold normalize
      rw [hdigits, stripZeros_zero, ← hdigits, ← hexponent]
    · unfold normalize
      rw [stripZeros_of_mod_ne_zero hlast]

theorem normalize_scale (negative : Bool) (n k : Nat) (e : Int) :
    normalize { negative, digits := n * 10 ^ k, exponent := e - k } =
      normalize { negative, digits := n, exponent := e } := by
  unfold normalize
  dsimp only
  rw [stripZeros_mul_ten_pow, sub_add_cancel]

end Decimal
end Filament
