import Filament.Proofs.Check
import Filament.Usage

/-!
Doubles that are numbers.

The one double that differs from itself is no number, so a spool that passed its check has the
content of itself (`Spool.beq_self_of_check`). The sum of a finite double and a number is a number,
and a number brought into the range of a spool is an amount that the spool may carry
(`Usage.clamp?_eq_some`).
-/

namespace Filament

open Float.Model (Format UnpackedFloat)
open Float.Model.UnpackedFloat (Sign)

namespace Double

/-! ## Packing -/

theorem isNaN_dite {c : Prop} [Decidable c] {x : c → UnpackedFloat} {y : ¬c → UnpackedFloat}
    (hx : ∀ h, (x h).isNaN = false) (hy : ∀ h, (y h).isNaN = false) :
    (if h : c then x h else y h).isNaN = false := by
  by_cases h : c
  · rw [dif_pos h]
    exact hx h
  · rw [dif_neg h]
    exact hy h

theorem isNaN_unpack_packComponents {s : Sign} {e : BitVec 11} {m : BitVec 52} (he : e ≠ -1#11) :
    (UnpackedFloat.unpack .binary64 (UnpackedFloat.packComponents .binary64 s e m)).isNaN =
    false := by
  have hexponent :
      UnpackedFloat.unpackExponent (UnpackedFloat.packComponents .binary64 s e m) = e :=
    UnpackedFloat.unpackExponent_packComponents
  have hfinite :
      UnpackedFloat.unpackExponent (UnpackedFloat.packComponents .binary64 s e m) ≠ -1#11 := by
    rw [hexponent]
    exact he
  unfold UnpackedFloat.unpack
  dsimp only
  rw [if_neg hfinite]
  exact isNaN_dite (fun _ => isNaN_dite (fun _ => rfl) fun _ => rfl) fun _ => rfl

/-- Packing makes of a number a number, if need be an infinite one. -/
theorem isNaN_unpack_pack (x : UnpackedFloat) : (Float.Model.pack x).unpack.isNaN = x.isNaN := by
  cases x with
  | notANumber => rfl
  | infinity s => cases s <;> rfl
  | zero s => cases s <;> rfl
  | finite s m e hm =>
    show (UnpackedFloat.unpack .binary64
      (UnpackedFloat.pack .binary64 (.finite s m e hm))).isNaN = false
    unfold UnpackedFloat.pack
    dsimp only
    split
    · cases s <;> rfl
    · rename_i hexponent
      split
      · -- The exponent of all ones is kept for what is not finite.
        apply isNaN_unpack_packComponents
        intro hones
        have htop := congrArg BitVec.toNat hones
        simp only [BitVec.toNat_ofNat, BitVec.toNat_neg] at htop
        simp only [Nat.not_le] at hexponent
        omega
      · exact isNaN_unpack_packComponents (by decide)

/-! ## Sums -/

theorem isNaN_roundWithAccuracy (spec : Format) (s : Sign) (m : Nat) (e : Int)
    (accuracy : UnpackedFloat.Accuracy) :
    (UnpackedFloat.roundWithAccuracy spec s m e accuracy).isNaN = false :=
  isNaN_dite (fun _ => rfl) fun _ => rfl

theorem isNaN_round (spec : Format) (s : Sign) (m : Nat) (e : Int) :
    (UnpackedFloat.round spec s m e).isNaN = false :=
  isNaN_roundWithAccuracy spec s _ _ _

theorem isNaN_normalize (spec : Format) (m e : Int) (s : Sign) :
    (UnpackedFloat.normalize spec m e s).isNaN = false := by
  unfold UnpackedFloat.normalize
  split
  · exact isNaN_round spec _ _ _
  · rfl
  · exact isNaN_round spec _ _ _

theorem isNaN_add_unpacked (spec : Format) {x y : UnpackedFloat} (hx : x.isFinite = true)
    (hy : y.isNaN = false) : (UnpackedFloat.add spec x y).isNaN = false := by
  cases x with
  | notANumber => cases hx
  | infinity s => cases hx
  | zero s =>
    cases y with
    | notANumber => cases hy
    | infinity t => rfl
    | zero t => cases s <;> cases t <;> rfl
    | finite t n f hn => rfl
  | finite s m e hm =>
    cases y with
    | notANumber => cases hy
    | infinity t => rfl
    | zero t => rfl
    | finite t n f hn => exact isNaN_normalize _ _ _ _

/-- Only infinite doubles sum up to what is no number. -/
theorem isNaN_add {x y : Float} (hx : x.isFinite = true) (hy : y.isNaN = false) :
    (x + y).isNaN = false := by
  have hsum : (x + y).isNaN =
      (UnpackedFloat.add .binary64 x.toModel.unpack y.toModel.unpack).isNaN := isNaN_unpack_pack _
  rw [hsum]
  exact isNaN_add_unpacked .binary64 hx hy

/-! ## Products -/

/-- A finite double other than zero. -/
def isFactor (x : Float) : Bool := x.isFinite && !(x == Scalar.zero)

theorem unpack_zero : (Scalar.zero : Float).toModel.unpack = .zero .positive := by rfl

theorem isFactor_iff {x : Float} :
    isFactor x = true ↔ ∃ s m e hm, x.toModel.unpack = .finite s m e hm := by
  show (x.toModel.unpack.isFinite &&
    !(x.toModel.unpack.compare (Scalar.zero : Float).toModel.unpack == some .eq)) = true ↔ _
  rw [unpack_zero]
  constructor
  · intro h
    cases hx : x.toModel.unpack with
    | finite s m e hm => exact ⟨s, m, e, hm, rfl⟩
    | _ => rw [hx] at h; cases h
  · rintro ⟨s, m, e, hm, hx⟩
    rw [hx]
    cases s <;> rfl

theorem isNaN_mul {x y : Float} (hx : x.isNaN = false) (hy : isFactor y = true) :
    (x * y).isNaN = false := by
  have hproduct : (x * y).isNaN =
      (UnpackedFloat.mul .binary64 x.toModel.unpack y.toModel.unpack).isNaN := isNaN_unpack_pack _
  have hx : x.toModel.unpack.isNaN = false := hx
  obtain ⟨t, n, f, hn, hunpack⟩ := isFactor_iff.mp hy
  rw [hproduct, hunpack]
  cases hu : x.toModel.unpack with
  | notANumber => rw [hu] at hx; cases hx
  | infinity s => rfl
  | zero s => rfl
  | finite s m e hm => exact isNaN_roundWithAccuracy _ _ _ _ _

theorem isNaN_div {x y : Float} (hx : x.isNaN = false) (hy : isFactor y = true) :
    (x / y).isNaN = false := by
  have hquotient : (x / y).isNaN =
      (UnpackedFloat.div .binary64 x.toModel.unpack y.toModel.unpack).isNaN := isNaN_unpack_pack _
  have hx : x.toModel.unpack.isNaN = false := hx
  obtain ⟨t, n, f, hn, hunpack⟩ := isFactor_iff.mp hy
  rw [hquotient, hunpack]
  cases hu : x.toModel.unpack with
  | notANumber => rw [hu] at hx; cases hx
  | infinity s => rfl
  | zero s => rfl
  | finite s m e hm => exact isNaN_roundWithAccuracy _ _ _ _ _

/-! ## Comparisons -/

theorem compare_self {x : UnpackedFloat} (h : x.isNaN = false) : x.compare x = some .eq := by
  cases x with
  | notANumber => cases h
  | infinity s => cases s <;> rfl
  | zero s => rfl
  | finite s m e hm =>
    have hparts : (compare e e).then (compare m m) = .eq :=
      Ordering.then_eq_eq.mpr ⟨Int.compare_eq_eq.mpr rfl, Nat.compare_eq_eq.mpr rfl⟩
    cases s with
    | positive => exact congrArg some hparts
    | negative => exact congrArg some (Ordering.swap_eq_eq.mpr hparts)

theorem lt_eq (x y : Float) : Scalar.lt x y = x.toModel.unpack.lt y.toModel.unpack :=
  Bool.decide_eq_true

theorem le_eq (x y : Float) : Scalar.le x y = x.toModel.unpack.le y.toModel.unpack :=
  Bool.decide_eq_true

/-- Two values can be compared exactly if both are numbers. -/
theorem isSome_compare (x y : UnpackedFloat) : (x.compare y).isSome = (!x.isNaN && !y.isNaN) := by
  cases x with
  | notANumber => rfl
  | infinity s =>
    cases y with
    | infinity t => cases s <;> cases t <;> rfl
    | _ => cases s <;> rfl
  | zero s =>
    cases y with
    | infinity t | finite t n f hn => cases t <;> rfl
    | _ => rfl
  | finite s m e hm =>
    cases y with
    | infinity t | finite t n f hn => cases s <;> cases t <;> rfl
    | _ => cases s <;> rfl

theorem compare_swap (x y : UnpackedFloat) : y.compare x = (x.compare y).map Ordering.swap := by
  cases x with
  | notANumber | zero s =>
    cases y with
    | infinity t | finite t n f hn => cases t <;> rfl
    | _ => rfl
  | infinity s =>
    cases y with
    | infinity t | finite t n f hn => cases s <;> cases t <;> rfl
    | _ => cases s <;> rfl
  | finite s m e hm =>
    cases y with
    | infinity t => cases s <;> cases t <;> rfl
    | finite t n f hn =>
      have hparts : (compare f e).then (compare n m) = ((compare e f).then (compare m n)).swap := by
        rw [Ordering.swap_then, Int.compare_swap, Nat.compare_swap]
      cases s with
      | positive =>
        cases t with
        | positive => exact congrArg some hparts
        | negative => rfl
      | negative =>
        cases t with
        | positive => rfl
        | negative => exact congrArg (fun o : Ordering => some o.swap) hparts
    | _ => cases s <;> rfl

/-- A double is at most another exactly if both are numbers and the other is not below it. -/
theorem le_iff {x y : Float} :
    Scalar.le x y = true ↔ x.isNaN = false ∧ y.isNaN = false ∧ Scalar.lt y x = false := by
  have hsome : (x.toModel.unpack.compare y.toModel.unpack).isSome = (!x.isNaN && !y.isNaN) :=
    isSome_compare _ _
  rw [le_eq, lt_eq, UnpackedFloat.le, UnpackedFloat.lt, compare_swap x.toModel.unpack]
  cases hcompare : x.toModel.unpack.compare y.toModel.unpack with
  | none =>
    rw [hcompare] at hsome
    refine iff_of_false Bool.false_ne_true fun ⟨hx, hy, _⟩ => ?_
    rw [hx, hy] at hsome
    cases hsome
  | some o =>
    rw [hcompare] at hsome
    obtain ⟨hx, hy⟩ := (Bool.and_eq_true _ _).mp hsome.symm
    rw [Bool.not_eq_true'] at hx hy
    cases o with
    | lt => exact iff_of_true rfl ⟨hx, hy, rfl⟩
    | eq => exact iff_of_true rfl ⟨hx, hy, rfl⟩
    | gt => exact iff_of_false Bool.false_ne_true nofun

theorem isNaN_eq_false_of_isFinite {x : Float} (h : x.isFinite = true) : x.isNaN = false := by
  have h : x.toModel.unpack.isFinite = true := h
  show x.toModel.unpack.isNaN = false
  cases hx : x.toModel.unpack with
  | notANumber => rw [hx] at h; cases h
  | _ => rfl

theorem beq_self {x : Float} (h : x.isNaN = false) : (x == x) = true := by
  show (x.toModel.unpack.compare x.toModel.unpack == some .eq) = true
  rw [compare_self h]
  rfl

theorem lt_self (x : Float) : Scalar.lt x x = false := by
  rw [lt_eq, UnpackedFloat.lt]
  cases h : x.toModel.unpack.isNaN with
  | false => rw [compare_self h]; rfl
  | true =>
    cases hx : x.toModel.unpack with
    | notANumber => rfl
    | _ => rw [hx] at h; cases h

theorem isNaN_larger {x : Float} (hx : x.isNaN = false) (y : Float) :
    (Scalar.larger x y).isNaN = false := by
  unfold Scalar.larger
  split
  · rename_i hlt
    rw [lt_eq, UnpackedFloat.lt] at hlt
    show y.toModel.unpack.isNaN = false
    cases hy : y.toModel.unpack with
    | notANumber =>
      rw [hy] at hlt
      cases hu : x.toModel.unpack with
      | notANumber => rw [hu] at hlt; cases hlt
      | infinity s => rw [hu] at hlt; cases s <;> cases hlt
      | zero s => rw [hu] at hlt; cases hlt
      | finite s m e hm => rw [hu] at hlt; cases s <;> cases hlt
    | _ => rfl
  · exact hx

/-- An amount lies between zero and a double that is not below it. -/
theorem zero_le_of_isAmount {x : Float} (h : isAmount x = true) :
    Scalar.le Scalar.zero x = true := by
  rw [isAmount, Bool.and_eq_true, Bool.not_eq_true', lt_eq, unpack_zero] at h
  obtain ⟨hfinite, hsign⟩ := h
  have hfinite : x.toModel.unpack.isFinite = true := hfinite
  rw [le_eq, unpack_zero]
  cases hx : x.toModel.unpack with
  | notANumber => rw [hx] at hfinite; cases hfinite
  | infinity s => rw [hx] at hfinite; cases hfinite
  | zero s => rfl
  | finite s m e hm =>
    rw [hx] at hsign
    cases s with
    | negative => cases hsign
    | positive => rfl

theorem isFinite_of_between {x bound : Float} (hbound : bound.isFinite = true)
    (hx : x.isNaN = false) (hlow : Scalar.lt x Scalar.zero = false)
    (hhigh : Scalar.lt bound x = false) : x.isFinite = true := by
  have hbound : bound.toModel.unpack.isFinite = true := hbound
  have hx : x.toModel.unpack.isNaN = false := hx
  show x.toModel.unpack.isFinite = true
  rw [lt_eq, unpack_zero] at hlow
  rw [lt_eq] at hhigh
  cases hu : x.toModel.unpack with
  | notANumber => rw [hu] at hx; cases hx
  | zero s => rfl
  | finite s m e hm => rfl
  | infinity s =>
    rw [hu] at hlow hhigh
    cases s with
    | negative => cases hlow
    | positive =>
      cases hb : bound.toModel.unpack with
      | notANumber => rw [hb] at hbound; cases hbound
      | infinity t => rw [hb] at hbound; cases hbound
      | zero t => rw [hb] at hhigh; cases t <;> cases hhigh
      | finite t n f hn => rw [hb] at hhigh; cases t <;> cases hhigh

end Double

/-! ## Spools -/

theorem isFactor_of_checkPositive {field : String} {x : Float}
    (h : checkPositive field x = .ok ()) : Double.isFactor x = true := by
  unfold checkPositive at h
  split at h
  · cases h
  · rename_i hguard
    simp only [Bool.or_eq_true, not_or, Bool.not_eq_true', Bool.not_eq_false] at hguard
    obtain ⟨hfinite, hpositive⟩ := hguard
    unfold Double.isFactor
    rw [Bool.and_eq_true, Bool.not_eq_true']
    refine ⟨hfinite, Bool.eq_false_iff.mpr fun hzero => hpositive ?_⟩
    have hcompare : x.toModel.unpack.compare (Scalar.zero : Float).toModel.unpack = some .eq :=
      eq_of_beq hzero
    rw [Double.le_eq, UnpackedFloat.le, hcompare]
    rfl

theorem isFinite_of_checkPositive {field : String} {x : Float}
    (h : checkPositive field x = .ok ()) : x.isFinite = true :=
  ((Bool.and_eq_true _ _).mp (isFactor_of_checkPositive h)).1

theorem Profile.beq_self {p : Profile Float} (hdensity : p.density.isFinite = true)
    (hdiameter : p.diameter.isFinite = true) : (p == p) = true := by
  have hself : ∀ {x : Float}, x.isFinite = true → (x == x) = true := fun hx =>
    Double.beq_self (Double.isNaN_eq_false_of_isFinite hx)
  show (p.id == p.id && p.vendor == p.vendor && p.material == p.material &&
    p.density == p.density && p.diameter == p.diameter) = true
  simp [hself hdensity, hself hdiameter]

/-- A valid spool has the content of itself. -/
theorem Spool.beq_self_of_check {s : Spool Float} (h : s.check = .ok ()) : (s == s) = true := by
  obtain ⟨-, -, hdiameter, hdensity, hcost, hweight, hused, -, hoffset⟩ := check_eq_ok_iff.mp h
  have hself : ∀ {x : Float}, x.isFinite = true → (x == x) = true := fun hx =>
    Double.beq_self (Double.isNaN_eq_false_of_isFinite hx)
  have hamount : ∀ {x : Float}, isAmount x = true → (x == x) = true := fun hx =>
    hself (Bool.and_eq_true _ _ |>.mp hx).1
  have hprofile : (s.profile == s.profile) = true :=
    Profile.beq_self (isFinite_of_checkPositive hdensity) (isFinite_of_checkPositive hdiameter)
  show (s.id == s.id && s.name == s.name && s.profile == s.profile && s.cost == s.cost &&
    s.weight == s.weight && s.used == s.used && s.tempOffset == s.tempOffset) = true
  simp [hprofile, hamount hcost, hamount hweight, hamount hused, hself hoffset]

/-- A number brought into the range of a valid weight is an amount within it. -/
theorem Usage.clamp?_eq_some {x bound : Float} (hbound : isAmount bound = true)
    (hx : x.isNaN = false) :
    ∃ y, clamp? x bound = some y ∧ isAmount y = true ∧ Scalar.lt bound y = false := by
  have hparts := hbound
  rw [isAmount, Bool.and_eq_true, Bool.not_eq_true'] at hparts
  obtain ⟨hfinite, hsign⟩ := hparts
  rw [clamp?, if_pos (Double.zero_le_of_isAmount hbound)]
  refine ⟨_, rfl, ?_⟩
  by_cases hlow : Scalar.lt x Scalar.zero = true
  · rw [if_pos hlow]
    exact ⟨by decide +kernel, hsign⟩
  · rw [if_neg hlow]
    by_cases hhigh : Scalar.lt bound x = true
    · rw [if_pos hhigh]
      exact ⟨hbound, Double.lt_self bound⟩
    · rw [if_neg hhigh]
      rw [Bool.not_eq_true] at hlow hhigh
      have hwithin : x.isFinite = true := Double.isFinite_of_between hfinite hx hlow hhigh
      refine ⟨?_, hhigh⟩
      rw [isAmount, Bool.and_eq_true, Bool.not_eq_true']
      exact ⟨hwithin, hlow⟩

end Filament
