import Mathlib.Data.Prod.Lex
import Filament.Proofs.Double

/-!
The order of doubles.

Every double that is a number has a place on a line: its sign with its kind, its exponent and its
mantissa, in this order of weight. One double is below another exactly if both are numbers and their
places lie so (`lt_iff`). So what is at most one double is at most any that the one gives way to
(`le_larger`), whatever becomes of the other.
-/

namespace Filament
namespace Double

open Float.Model (UnpackedFloat)

/-- Where a number lies. What is no number has no place of its own. -/
def place : UnpackedFloat → ℤ ×ₗ ℤ ×ₗ ℤ
  | .infinity .negative => toLex (-2, toLex (0, 0))
  | .finite .negative m e _ => toLex (-1, toLex (-e, -m))
  | .zero _ | .notANumber => toLex (0, toLex (0, 0))
  | .finite .positive m e _ => toLex (1, toLex (e, m))
  | .infinity .positive => toLex (2, toLex (0, 0))

theorem toLex_lt {a b c x y z : ℤ} :
    toLex (a, toLex (b, c)) < toLex (x, toLex (y, z)) ↔ a < x ∨ a = x ∧
      (b < y ∨ b = y ∧ c < z) := by
  rw [Prod.Lex.toLex_lt_toLex, Prod.Lex.toLex_lt_toLex]

theorem parts_lt {e f : ℤ} {m n : Nat} :
    (compare e f).then (compare m n) = .lt ↔ e < f ∨ e = f ∧ m < n := by
  rw [Ordering.then_eq_lt, compare_lt_iff_lt, compare_lt_iff_lt, compare_eq_iff_eq]

theorem compare_eq_lt {x y : UnpackedFloat} (hx : x.isNaN = false) (hy : y.isNaN = false) :
    x.compare y = some .lt ↔ place x < place y := by
  cases x with
  | notANumber => cases hx
  | infinity s =>
    cases y with
    | notANumber => cases hy
    | infinity t => cases s <;> cases t <;> decide
    | zero t | finite t n f hn =>
      cases s <;> cases t <;> dsimp only [UnpackedFloat.compare, place] <;> simp [toLex_lt]
  | zero s =>
    cases y with
    | notANumber => cases hy
    | zero t => exact iff_of_false nofun (lt_irrefl _)
    | infinity t | finite t n f hn =>
      cases t <;> dsimp only [UnpackedFloat.compare, place] <;> simp [toLex_lt]
  | finite s m e hm =>
    cases y with
    | notANumber => cases hy
    | infinity t | zero t =>
      cases s <;> cases t <;> dsimp only [UnpackedFloat.compare, place] <;> simp [toLex_lt]
    | finite t n f hn =>
      cases s with
      | positive =>
        cases t with
        | positive =>
          dsimp only [UnpackedFloat.compare, place]
          rw [Option.some_inj, parts_lt, toLex_lt]
          simp
        | negative =>
          dsimp only [UnpackedFloat.compare, place]
          simp [toLex_lt]
      | negative =>
        cases t with
        | positive =>
          dsimp only [UnpackedFloat.compare, place]
          simp [toLex_lt]
        | negative =>
          -- Of two negative numbers the one with the larger parts is the smaller.
          dsimp only [UnpackedFloat.compare, place]
          rw [Option.some_inj, Ordering.swap_then, Int.compare_swap, Nat.compare_swap, parts_lt,
            toLex_lt]
          simp [eq_comm]

/-- A double is below another exactly if both are numbers and it lies before it. -/
theorem lt_iff {x y : Float} :
    Scalar.lt x y = true ↔ x.isNaN = false ∧ y.isNaN = false ∧
      place x.toModel.unpack < place y.toModel.unpack := by
  have hsome : (x.toModel.unpack.compare y.toModel.unpack).isSome = (!x.isNaN && !y.isNaN) :=
    isSome_compare _ _
  rw [lt_eq, UnpackedFloat.lt, beq_iff_eq]
  constructor
  · intro h
    rw [h] at hsome
    obtain ⟨hx, hy⟩ := (Bool.and_eq_true _ _).mp hsome.symm
    rw [Bool.not_eq_true'] at hx hy
    exact ⟨hx, hy, (compare_eq_lt hx hy).mp h⟩
  · rintro ⟨hx, hy, h⟩
    exact (compare_eq_lt hx hy).mpr h

theorem le_of_le_of_lt {x y z : Float} (hxy : Scalar.le x y = true) (hyz : Scalar.lt y z = true) :
    Scalar.le x z = true := by
  obtain ⟨hx, hy, hle⟩ := le_iff.mp hxy
  obtain ⟨-, hz, hlt⟩ := lt_iff.mp hyz
  refine le_iff.mpr ⟨hx, hz, Bool.eq_false_iff.mpr fun hzx => ?_⟩
  obtain ⟨-, -, hback⟩ := lt_iff.mp hzx
  rw [lt_iff.mpr ⟨hy, hx, hlt.trans hback⟩] at hle
  cases hle

/-- What is at most the left one of two doubles is at most the larger one, be the right one a number
or not. -/
theorem le_larger {x y : Float} (h : Scalar.le x y = true) (z : Float) :
    Scalar.le x (Scalar.larger y z) = true := by
  unfold Scalar.larger
  split
  · rename_i hlt
    exact le_of_le_of_lt h hlt
  · exact h

end Double
end Filament
