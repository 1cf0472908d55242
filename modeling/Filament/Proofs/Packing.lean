import Mathlib.Algebra.Group.Nat.Defs
import Filament.Proofs.Double

/-!
Doubles and their parts.

A finite double other than zero is a sign, a mantissa and an exponent. Only certain mantissas and
exponents come from a double (`IsCanonical`); for those, packing and unpacking undo each other
(`unpack_ofParts`, `ofParts_of_unpack`), so a double is determined by its parts.
-/

namespace Filament
namespace Double

open Float.Model (Format UnpackedFloat)
open Float.Model.UnpackedFloat (Sign)

/-- The mantissa and the exponent of a finite double that is not zero. The mantissa has all of its
53 bits unless the exponent is the least one. -/
structure IsCanonical (m : Nat) (e : Int) : Prop where
  pos : 0 < m
  lt : m < 2 ^ 53
  full : 2 ^ 52 ≤ m ∨ e = -1074
  ge : -1074 ≤ e
  le : e ≤ 971

theorem finite_congr {s : Sign} {m n : Nat} {e f : Int} (hm : 0 < m) (hn : 0 < n) (hmn : m = n)
    (hef : e = f) : UnpackedFloat.finite s m e hm = .finite s n f hn := by
  subst hmn hef
  rfl

/-! ## Bits -/

/-- The bits of a double with a sign, a biased exponent and a stored mantissa. -/
abbrev bits (s : Sign) (e : BitVec 11) (m : BitVec 52) : BitVec 64 :=
  UnpackedFloat.packComponents .binary64 s e m

section

variable (s : Sign) (e : BitVec 11) (m : BitVec 52)

theorem unpackSign_bits :
    @UnpackedFloat.unpackSign .binary64 (bits s e m) = s.toBitVec := by
  apply BitVec.eq_of_getLsbD_eq
  intro i hi
  obtain rfl : i = 0 := by omega
  unfold UnpackedFloat.unpackSign
  rw [BitVec.getLsbD_cast, BitVec.getLsbD_extractLsb]
  show (decide (0 ≤ 0) && (s.toBitVec ++ e ++ m : BitVec (1 + 11 + 52)).getLsbD 63) = _
  rw [BitVec.getLsbD_append, BitVec.getLsbD_append]
  rfl

theorem exists_bits (b : BitVec 64) : ∃ s e m, b = bits s e m := by
  have hsign : ∀ c : BitVec 1, (Sign.ofBitVec c).toBitVec = c := by decide
  refine ⟨Sign.ofBitVec (b.extractLsb 63 63), b.extractLsb 62 52, b.extractLsb 51 0, ?_⟩
  unfold bits UnpackedFloat.packComponents
  rw [hsign]
  apply BitVec.eq_of_getLsbD_eq
  intro i hi
  show _ = (b.extractLsb 63 63 ++ b.extractLsb 62 52 ++ b.extractLsb 51 0 :
    BitVec (1 + 11 + 52)).getLsbD i
  rw [BitVec.getLsbD_append, BitVec.getLsbD_append]
  simp only [BitVec.getLsbD_extractLsb]
  by_cases hlow : i < 52
  · rw [if_pos hlow, Nat.zero_add]
    simp [hlow]
  · rw [if_neg hlow]
    by_cases hmid : i - 52 < 11
    · rw [if_pos hmid, show 52 + (i - 52) = i by omega]
      simp [hmid]
    · rw [if_neg hmid, show 63 + (i - 52 - 11) = i by omega]
      simp [show i - 52 - 11 < 1 by omega]

theorem unpack_bits :
    UnpackedFloat.unpack .binary64 (bits s e m) =
      if e = -1#11 then if m = 0#52 then .infinity s else .notANumber
      else if e = 0#11 then
        if h : m = 0#52 then .zero s
        else .finite s m.toNat (-1074) (by simpa [BitVec.toNat_pos, BitVec.pos_iff_ne_zero])
      else .finite s (2 ^ 52 + m.toNat) (e.toNat - 1075) (by omega) := by
  have hsign : Sign.ofBitVec (@UnpackedFloat.unpackSign .binary64 (bits s e m)) = s := by
    rw [unpackSign_bits]
    cases s <;> rfl
  have hexponent : @UnpackedFloat.unpackExponent .binary64 (bits s e m) = e :=
    UnpackedFloat.unpackExponent_packComponents
  have hmantissa : @UnpackedFloat.unpackMantissa .binary64 (bits s e m) = m :=
    UnpackedFloat.unpackMantissa_packComponents
  generalize bits s e m = b at hsign hexponent hmantissa ⊢
  subst hsign hexponent hmantissa
  unfold UnpackedFloat.unpack
  dsimp only
  by_cases hones : @UnpackedFloat.unpackExponent .binary64 b = -1#11
  · rw [if_pos hones, if_pos hones]
  · rw [if_neg hones, if_neg hones]
    by_cases hzero : @UnpackedFloat.unpackExponent .binary64 b = 0#11
    · rw [if_pos hzero, if_pos hzero]
      by_cases hm : @UnpackedFloat.unpackMantissa .binary64 b = 0#52
      · rw [dif_pos hm, dif_pos hm]
      · rw [dif_neg hm, dif_neg hm]
        apply finite_congr
        · rfl
        · rw [hzero]
          rfl
    · rw [if_neg hzero, if_neg hzero]
      apply finite_congr
      · rw [BitVec.toNat_append,
          ← Nat.shiftLeft_add_eq_or_of_lt (@UnpackedFloat.unpackMantissa .binary64 b).isLt]
        rfl
      · rfl

/-- What the bits of a double can stand for. -/
inductive Unpacked : UnpackedFloat → Prop where
  | special {x : UnpackedFloat} (hones : e = -1#11) (h : x = .infinity s ∨ x = .notANumber) :
    Unpacked x
  | zero (hones : e ≠ -1#11) (hzero : e = 0#11) (hm : m = 0#52) : Unpacked (.zero s)
  | subnormal (hones : e ≠ -1#11) (hzero : e = 0#11) (hm : 0 < m.toNat) :
    Unpacked (.finite s m.toNat (-1074) hm)
  | normal (hones : e ≠ -1#11) (hzero : e ≠ 0#11) (hm : 0 < 2 ^ 52 + m.toNat) :
    Unpacked (.finite s (2 ^ 52 + m.toNat) (e.toNat - 1075) hm)

theorem unpacked_bits : Unpacked s e m (UnpackedFloat.unpack .binary64 (bits s e m)) := by
  rw [unpack_bits]
  by_cases hones : e = -1#11
  · rw [if_pos hones]
    apply Unpacked.special hones
    by_cases hm : m = 0#52
    · rw [if_pos hm]
      exact Or.inl rfl
    · rw [if_neg hm]
      exact Or.inr rfl
  · rw [if_neg hones]
    by_cases hzero : e = 0#11
    · rw [if_pos hzero]
      by_cases hm : m = 0#52
      · rw [dif_pos hm]
        exact .zero hones hzero hm
      · rw [dif_neg hm]
        exact .subnormal hones hzero _
    · rw [if_neg hzero]
      exact .normal hones hzero _

theorem pack_subnormal (hm : 0 < m.toNat) :
    UnpackedFloat.pack .binary64 (.finite s m.toNat (-1074) hm) = bits s 0#11 m := by
  have hlog : m.toNat.log2 < 52 := (Nat.log2_lt (by omega)).mpr m.isLt
  unfold UnpackedFloat.pack
  dsimp only
  rw [if_neg (by decide), if_neg (by show m.toNat.log2 + 1 ≠ 53; omega)]
  exact congrArg (bits s 0#11) (BitVec.ofNat_toNat 52 m)

theorem pack_normal (he : e ≠ -1#11) (hm : 0 < 2 ^ 52 + m.toNat) :
    UnpackedFloat.pack .binary64 (.finite s (2 ^ 52 + m.toNat) (e.toNat - 1075) hm) =
      bits s e m := by
  have hlog : (2 ^ 52 + m.toNat).log2 = 52 := by
    rw [Nat.log2_eq_iff (by omega)]
    have := m.isLt
    omega
  have hbiased : (e.toNat - 1075 + (Format.exponentBias .binary64 : Int) + (52 : Nat)).toNat =
      e.toNat := by
    show (e.toNat - 1075 + (1023 : Int) + 52).toNat = e.toNat
    omega
  have hfits : ¬2 ^ 11 ≤ e.toNat + 1 := by
    have hne : e.toNat ≠ 2047 := fun h => he (BitVec.eq_of_toNat_eq h)
    have := e.isLt
    omega
  unfold UnpackedFloat.pack
  dsimp only
  rw [hbiased, if_neg hfits, hlog,
    if_pos (show 52 + 1 = Format.mantissaBits .binary64 from rfl)]
  show bits s (BitVec.ofNat 11 e.toNat) (BitVec.ofNat 52 (2 ^ 52 + m.toNat)) = bits s e m
  rw [BitVec.ofNat_toNat, BitVec.setWidth_eq]
  congr 1
  apply BitVec.eq_of_toNat_eq
  rw [BitVec.toNat_ofNat, Nat.add_mod_left, Nat.mod_eq_of_lt m.isLt]

theorem toNat_bits :
    (bits s e m).toNat = (s.toBitVec.toNat * 2 ^ 11 + e.toNat) * 2 ^ 52 + m.toNat := by
  show (s.toBitVec ++ e ++ m).toNat = _
  rw [BitVec.toNat_append, ← Nat.shiftLeft_add_eq_or_of_lt m.isLt, BitVec.toNat_append,
    ← Nat.shiftLeft_add_eq_or_of_lt e.isLt, Nat.shiftLeft_eq, Nat.shiftLeft_eq]

end

/-- The fields of a word as they are cut out of it. -/
theorem fields {b : UInt64} {s : Sign} {e : BitVec 11} {m : BitVec 52}
    (h : b.toBitVec = bits s e m) :
    ((b >>> 52) &&& 0x7FF).toNat = e.toNat ∧ (b &&& 0xFFFFFFFFFFFFF).toNat = m.toNat ∧
      (b >>> 63).toNat = s.toBitVec.toNat := by
  have hb : b.toNat = (s.toBitVec.toNat * 2 ^ 11 + e.toNat) * 2 ^ 52 + m.toNat := by
    rw [← toNat_bits, ← h]
    rfl
  have hs := s.toBitVec.isLt
  have he := e.isLt
  have hm := m.isLt
  refine ⟨?_, ?_, ?_⟩
  · rw [UInt64.toNat_and, UInt64.toNat_shiftRight]
    show (b.toNat >>> 52) &&& (2 ^ 11 - 1) = _
    rw [Nat.and_two_pow_sub_one_eq_mod, Nat.shiftRight_eq_div_pow]
    omega
  · rw [UInt64.toNat_and]
    show b.toNat &&& (2 ^ 52 - 1) = _
    rw [Nat.and_two_pow_sub_one_eq_mod]
    omega
  · rw [UInt64.toNat_shiftRight]
    show b.toNat >>> 63 = _
    rw [Nat.shiftRight_eq_div_pow]
    omega

/-! ## Packing and unpacking -/

/-- The double with the given parts. -/
def ofParts (s : Sign) (m : Nat) (e : Int) (hm : 0 < m) : Float :=
  .ofModel (.pack (.finite s m e hm))

variable {s : Sign} {m : Nat} {e : Int}

/-- Packing loses nothing of a double. -/
theorem unpack_ofParts (h : IsCanonical m e) (s : Sign) :
    (ofParts s m e h.pos).toModel.unpack = .finite s m e h.pos := by
  show UnpackedFloat.unpack .binary64 (UnpackedFloat.pack .binary64 (.finite s m e h.pos)) = _
  have hlt := h.lt
  have hge := h.ge
  have hle := h.le
  by_cases hnormal : 2 ^ 52 ≤ m
  · have hE : (BitVec.ofNat 11 (e + 1075).toNat).toNat = (e + 1075).toNat := by
      rw [BitVec.toNat_ofNat]
      omega
    have hM : (BitVec.ofNat 52 (m - 2 ^ 52)).toNat = m - 2 ^ 52 := by
      rw [BitVec.toNat_ofNat]
      omega
    have hones : BitVec.ofNat 11 (e + 1075).toNat ≠ -1#11 := by
      intro heq
      rw [heq] at hE
      simp only [BitVec.toNat_neg, BitVec.toNat_ofNat] at hE
      omega
    have hzero : BitVec.ofNat 11 (e + 1075).toNat ≠ 0#11 := by
      intro heq
      rw [heq, BitVec.toNat_ofNat] at hE
      omega
    have hparts : UnpackedFloat.finite s m e h.pos =
        .finite s (2 ^ 52 + (BitVec.ofNat 52 (m - 2 ^ 52)).toNat)
          ((BitVec.ofNat 11 (e + 1075).toNat).toNat - 1075) (by omega) :=
      finite_congr _ _ (by omega) (by omega)
    rw [hparts, pack_normal s _ _ hones, unpack_bits, if_neg hones, if_neg hzero]
  · obtain rfl : e = -1074 := h.full.resolve_left hnormal
    have hM : (BitVec.ofNat 52 m).toNat = m := by
      rw [BitVec.toNat_ofNat]
      omega
    have hpos := h.pos
    have hnonzero : BitVec.ofNat 52 m ≠ 0#52 := by
      intro heq
      rw [heq, BitVec.toNat_ofNat] at hM
      omega
    have hparts : UnpackedFloat.finite s m (-1074) h.pos =
        .finite s (BitVec.ofNat 52 m).toNat (-1074) (by omega) :=
      finite_congr _ _ hM.symm rfl
    rw [hparts, pack_subnormal, unpack_bits, if_neg (by decide), if_pos rfl, dif_neg hnonzero]

theorem eq_of_toBitVec {x y : Float} (h : x.toBits.toBitVec = y.toBits.toBitVec) : x = y := by
  obtain ⟨⟨b, hb⟩⟩ := x
  obtain ⟨⟨c, hc⟩⟩ := y
  obtain rfl : b = c := UInt64.toBitVec_inj.mp h
  rfl

theorem eq_of_unpack_zero {x : Float} (h : x.toModel.unpack = .zero s) :
    x = .ofModel (.pack (.zero s)) := by
  obtain ⟨t, E, M, hbits⟩ := exists_bits x.toBits.toBitVec
  have hunpack : UnpackedFloat.unpack .binary64 x.toBits.toBitVec = .zero s := h
  have hcases := unpacked_bits t E M
  rw [← hbits, hunpack] at hcases
  cases hcases with
  | special hones h => rcases h with h | h <;> cases h
  | zero hones hzero hM =>
    subst hzero hM
    exact eq_of_toBitVec hbits

/-- The bits of a double with the given parts. -/
inductive HasBits (b : BitVec 64) (s : Sign) : Nat → Int → Prop where
  | subnormal (M : BitVec 52) (hM : 0 < M.toNat) (hb : b = bits s 0#11 M) :
    HasBits b s M.toNat (-1074)
  | normal (E : BitVec 11) (M : BitVec 52) (hzero : E ≠ 0#11) (hones : E ≠ -1#11)
    (hb : b = bits s E M) : HasBits b s (2 ^ 52 + M.toNat) (E.toNat - 1075)

theorem hasBits_of_unpack {x : Float} {hm : 0 < m} (h : x.toModel.unpack = .finite s m e hm) :
    HasBits x.toBits.toBitVec s m e := by
  obtain ⟨t, E, M, hbits⟩ := exists_bits x.toBits.toBitVec
  have hunpack : UnpackedFloat.unpack .binary64 x.toBits.toBitVec = .finite s m e hm := h
  have hcases := unpacked_bits t E M
  rw [← hbits, hunpack] at hcases
  cases hcases with
  | special hones h => rcases h with h | h <;> cases h
  | subnormal hones hzero hM =>
    subst hzero
    exact .subnormal M hM hbits
  | normal hones hzero hM => exact .normal E M hzero hones hbits

theorem ofParts_of_unpack {x : Float} {hm : 0 < m} (h : x.toModel.unpack = .finite s m e hm) :
    IsCanonical m e ∧ x = ofParts s m e hm := by
  cases hasBits_of_unpack h with
  | subnormal M hM hb =>
    have hlt := M.isLt
    refine ⟨⟨hm, by omega, Or.inr rfl, by omega, by omega⟩, eq_of_toBitVec (hb.trans ?_)⟩
    exact (pack_subnormal s M hM).symm
  | normal E M hzero hones hb =>
    have hlt := M.isLt
    have hltE := E.isLt
    have hpositive : E.toNat ≠ 0 := fun h0 => hzero (BitVec.eq_of_toNat_eq h0)
    have hfinite : E.toNat ≠ 2047 := fun h2047 => hones (BitVec.eq_of_toNat_eq h2047)
    refine ⟨⟨hm, by omega, by omega, by omega, by omega⟩, eq_of_toBitVec (hb.trans ?_)⟩
    exact (pack_normal s E M hones hm).symm

end Double
end Filament
