import Filament.Proofs.JsonRecords

/-!
Doubles that are read from what is written for them.

The reader of JSON divides the digits of a numeral by a power of ten. As long as both are doubles
it rounds once, to the double nearest to the number (`nearest_div`). A double that is written
without an exponent and with at most fifteen digits is therefore read back (`readsBack_of_short`).
-/

namespace Filament
namespace Decimal

open Double
open Numeral (powerOfTen)

variable {n k : Nat}

/-! ## Exact doubles -/

/-- A whole number of at most 53 bits is a double. -/
theorem nearest_whole (hn : 0 < n) (hlt : n * 10 ^ k < 2 ^ 53) :
    nearest n k = (n * 10 ^ k).toUInt64.toFloat := by
  have hwhole := isWhole_toFloat (Nat.mul_pos hn (Nat.pow_pos (by decide))) hlt
  rw [hwhole.eq]
  apply nearest_eq_ofParts hwhole.toIsCanonical
  rw [hwhole.value_eq, zpow_natCast]
  push_cast
  rfl

theorem nearest_natCast (hn : 0 < n) (hlt : n < 2 ^ 53) : nearest n 0 = n.toUInt64.toFloat := by
  have hwhole := nearest_whole (k := 0) hn (by omega)
  rwa [Nat.pow_zero, Nat.mul_one] at hwhole

theorem powerOfTen_eq (hk : k < Float.exactlyRepresentablePowersOfTen.size) :
    powerOfTen k = Float.exactlyRepresentablePowersOfTen[k] := by
  obtain ⟨m, e, hten⟩ := exists_isWhole_powerOfTen hk
  rw [hten.eq]
  apply nearest_eq_ofParts hten.toIsCanonical
  rw [hten.value_eq, Nat.cast_one, one_mul, zpow_natCast]
  push_cast
  rfl

/-- A fraction of short numbers is rounded once. -/
theorem nearest_div (hn : 0 < n) (hlt : n < 2 ^ 53) (hpos : 0 < k) (hk : k ≤ 22) :
    nearest n 0 / powerOfTen k = nearest n (-k) := by
  have hwidth : width n ≤ 16 :=
    (Nat.length_toDigits_le_iff (by decide) (by decide)).mpr (hlt.trans (by decide))
  have hhigh : ¬310 < (width n : Int) + -k := by omega
  have hlow : ¬(width n : Int) + -k < -330 := by omega
  have hneg : (-(k : Int)) < 0 := by omega
  rw [nearest_natCast hn hlt, powerOfTen_eq (Nat.lt_succ_of_le hk)]
  unfold nearest
  rw [if_neg hn.ne', if_neg hhigh, if_neg hlow, decide_eq_true hneg, Int.natAbs_neg,
    Int.natAbs_natCast]
  unfold Float.ofScientific
  rw [dif_pos ⟨hlt, hk⟩]
  rfl

/-- A whole number with a zero after the point is read as it is without. -/
theorem nearest_div_ten (hn : 0 < n) (hlt : n * 10 ^ (k + 1) < 2 ^ 53) :
    nearest (n * 10 ^ (k + 1)) 0 / powerOfTen 1 = nearest n k := by
  have hscale : n * 10 ^ (k + 1) = n * 10 ^ k * 10 := by rw [Nat.pow_succ, Nat.mul_assoc]
  have hpos : 0 < n * 10 ^ k := Nat.mul_pos hn (Nat.pow_pos (by decide))
  have hwhole := isWhole_toFloat hpos (by omega)
  have hsize : 1 < Float.exactlyRepresentablePowersOfTen.size := by decide
  obtain ⟨m, e, hten⟩ := exists_isWhole_powerOfTen hsize
  have hscaled := isWhole_toFloat (n := n * 10 ^ (k + 1)) (by omega) hlt
  rw [nearest_natCast (by omega) hlt, nearest_whole hn (by omega), powerOfTen_eq hsize,
    hscaled.eq, hten.eq, hwhole.eq]
  apply ofParts_div hscaled.toIsCanonical hten.toIsCanonical hwhole.toIsCanonical
  rw [hscaled.value_eq, hten.value_eq, hwhole.value_eq, hscale]
  push_cast
  ring

/-! ## Digits -/

theorem ofDigitChars_lt {cs : List Char} (h : ∀ c ∈ cs, c.isDigit = true) :
    Nat.ofDigitChars 10 cs 0 < 10 ^ cs.length := by
  induction cs with
  | nil => exact Nat.one_pos
  | cons c cs ih =>
    obtain ⟨hdigit, hrest⟩ := List.forall_mem_cons.mp h
    have hbounds := Text.toNat_of_isDigit hdigit
    have hvalue : 10 * 0 + (c.toNat - '0'.toNat) ≤ 9 := by
      show 10 * 0 + (c.toNat - 0x30) ≤ 9
      omega
    rw [Nat.ofDigitChars_cons, Nat.ofDigitChars_eq_ofDigitChars_zero, List.length_cons,
      Nat.pow_succ]
    have hfirst := Nat.mul_le_mul_left (10 ^ cs.length) hvalue
    have hlast := ih hrest
    omega

theorem le_ofDigitChars (cs : List Char) (n : Nat) : n ≤ Nat.ofDigitChars 10 cs n := by
  rw [Nat.ofDigitChars_eq_ofDigitChars_zero]
  exact (Nat.le_mul_of_pos_left _ (Nat.pow_pos (by decide))).trans (Nat.le_add_right _ _)

namespace Numeral

/-- All digits are gathered if there is room for the number that they write. -/
theorem gather_eq {cs : List Char} {word : Nat} (h : Nat.ofDigitChars 10 cs word ≤ Text.maxWord) :
    gather word cs = (Nat.ofDigitChars 10 cs word, []) := by
  induction cs generalizing word with
  | nil => rfl
  | cons c cs ih =>
    rw [Nat.ofDigitChars_cons] at h ⊢
    have hmore : 10 * word + Text.digitValue c ≤ Text.maxWord := (le_ofDigitChars cs _).trans h
    unfold gather
    rw [if_pos hmore]
    exact ih h

/-- A numeral with a point and at most fifteen digits is read by one division. -/
theorem float?_of_short {n : Numeral} (hplain : n.exponent = 0)
    (hdigits : ∀ c ∈ n.whole ++ n.fraction, c.isDigit = true)
    (hlength : (n.whole ++ n.fraction).length ≤ 15) (hfraction : n.fraction ≠ []) :
    n.float? = some
      (if n.negative then -(nearest n.decimal.digits 0 / powerOfTen n.fraction.length)
      else nearest n.decimal.digits 0 / powerOfTen n.fraction.length) := by
  have hroom : Nat.ofDigitChars 10 (n.whole ++ n.fraction) 0 ≤ Text.maxWord :=
    ((ofDigitChars_lt hdigits).trans_le (Nat.pow_le_pow_right (by decide) hlength)).le.trans
      (by decide)
  have hdecimal : n.decimal.digits = Nat.ofDigitChars 10 (n.whole ++ n.fraction) 0 := rfl
  rw [Nat.ofDigitChars_append] at hroom hdecimal
  have hplaces : 0 < n.fraction.length := List.length_pos_of_ne_nil hfraction
  rw [List.length_append] at hlength
  have hneg : n.exponent + (0 : Nat) - ((n.fraction.length - 0 : Nat) : Int) < 0 := by omega
  have hpower : (n.exponent + (0 : Nat) - ((n.fraction.length - 0 : Nat) : Int)).natAbs =
      n.fraction.length := by omega
  have hdouble : n.fraction.length ≤ maxPower := by
    show n.fraction.length ≤ 308
    omega
  unfold float?
  rw [gather_eq ((le_ofDigitChars _ _).trans hroom)]
  dsimp only
  rw [gather_eq hroom, ← hdecimal]
  dsimp only [List.length_nil]
  rw [if_pos hneg, hpower, Option.bind_eq_bind, Option.bind_some, divide, if_pos hdouble]
  rfl

end Numeral
end Decimal

/-! ## What is written -/

namespace Json

open Decimal
open Numeral (powerOfTen)

theorem ofDigitChars_plain_of_neg (n : Nat) {e : Int} (he : e < 0) :
    Nat.ofDigitChars 10
      ((plain true (Nat.toDigits 10 n) e).1 ++ (plain true (Nat.toDigits 10 n) e).2) 0 = n := by
  unfold plain
  rw [if_neg (Int.not_le.mpr he)]
  dsimp only
  split
  · rw [List.splitAt_eq, List.take_append_drop, Nat.ofDigitChars_ten_toDigits]
  · exact ofDigitChars_zeros_append (_ + 1) n

theorem length_plain_of_neg (n : Nat) {e : Int} (he : e < 0) :
    ((plain true (Nat.toDigits 10 n) e).2.length : Int) = -e := by
  unfold plain
  rw [if_neg (Int.not_le.mpr he)]
  dsimp only
  split
  · rw [List.splitAt_eq, List.length_drop]
    omega
  · rw [List.length_append, zeros, List.length_replicate]
    omega

theorem plain_natCast (n k : Nat) :
    plain true (Nat.toDigits 10 n) k = (Nat.toDigits 10 n ++ zeros k, ['0']) := by
  unfold plain
  rw [if_pos (Int.natCast_nonneg k)]
  rfl

variable {d : Decimal} {n : Numeral} {x : Float}

/-- The digits of a short numeral over its places come to the double of the decimal. -/
theorem nearest_numeral (h : d.normalize = d) (hplain : (numberStyle.numeral d).exponent = 0)
    (hlength :
      ((numberStyle.numeral d).whole ++ (numberStyle.numeral d).fraction).length ≤ 15) :
    nearest (numberStyle.numeral d).decimal.digits 0 /
        powerOfTen (numberStyle.numeral d).fraction.length =
      nearest d.digits d.exponent := by
  have hlt : (numberStyle.numeral d).decimal.digits < 2 ^ 53 :=
    (ofDigitChars_lt (isNumeral_numeral h).isDigit).trans_le
      ((Nat.pow_le_pow_right (by decide) hlength).trans (by decide))
  rw [List.length_append] at hlength
  rw [numeral_eq_plain hplain] at hlt hlength ⊢
  unfold Numeral.decimal at hlt ⊢
  dsimp only at hlt hlength ⊢
  rcases lt_or_ge d.exponent 0 with hneg | hge
  · have hplaces := length_plain_of_neg d.digits hneg
    rw [ofDigitChars_plain_of_neg d.digits hneg] at hlt ⊢
    rw [nearest_div (digits_pos h hneg.ne) hlt (by omega) (by omega), hplaces, Int.neg_neg]
  · obtain ⟨k, hk⟩ := Int.eq_ofNat_of_zero_le hge
    rw [hk, plain_natCast] at hlt ⊢
    dsimp only at hlt ⊢
    rw [List.append_assoc, append_zero, ofDigitChars_append_zeros] at hlt ⊢
    rcases Nat.eq_zero_or_pos d.digits with hzero | hpos
    · rw [hzero, Nat.zero_mul]
      unfold nearest
      rw [if_pos rfl, if_pos rfl]
      decide +kernel
    · exact nearest_div_ten hpos hlt

/-- A double that is written without an exponent and with at most fifteen digits is read back. -/
theorem readsBack_of_short (h : ofFloat x = .decimal n) (hplain : n.exponent = 0)
    (hlength : (n.whole ++ n.fraction).length ≤ 15) : ReadsBack x := by
  have hx : x.isFinite = true := isFinite_of_ofFloat (by rw [h]; nofun)
  obtain ⟨d, hwritten, hnormal, hread⟩ := exists_ofFloat hx
  obtain rfl : numberStyle.numeral d = n := Json.decimal.inj (hwritten.symm.trans h)
  have hnumeral := isNumeral_numeral hnormal
  have hfraction := hnumeral.marked.resolve_right (not_not_intro hplain)
  have hsign : (numberStyle.numeral d).negative = d.negative := rfl
  unfold ReadsBack
  rw [h]
  show (numberStyle.numeral d).float? = some x
  rw [Numeral.float?_of_short hplain hnumeral.isDigit hlength hfraction,
    nearest_numeral hnormal hplain hlength, hsign, ← hread]
  unfold toFloat
  rw [hnormal]

-- Seventeen digits are too many.
example : ¬ReadsBack 51.248178375505404 := by decide +kernel

end Json
end Filament
