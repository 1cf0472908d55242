import Mathlib.Data.String.Basic
import Filament.Proofs.Encoded
import Filament.Settings.File

/-!
How long JSON text can get.

A double has a decimal of bounded length whichever way it was found (`isBounded_shortest?`), a
character takes at most six in quotes, and the layout adds a line and its indentation to each token
(`length_layout_le`). So settings that are accepted fit into the largest file that is read
(`Settings.utf8ByteSize_text_le`).
-/

namespace Filament
namespace Decimal

/-! ## Decimals of doubles -/

/-- Neither digits nor exponent are large. -/
structure IsBounded (k : Nat) (d : Decimal) : Prop where
  digits : d.digits < 10 ^ k
  exponent : d.exponent.natAbs ≤ k

/-- The most digits that the exact value of a double or a multiple of a power of ten next to it can
have. -/
def maxWidth : Nat := 1100

/-- More than the numerator of any double. -/
def numeratorBound : Nat := 2 ^ 1025

theorem isBounded_zero (k : Nat) (negative : Bool) :
    IsBounded k { negative, digits := 0, exponent := 0 } :=
  ⟨Nat.pow_pos (by decide), Nat.zero_le k⟩

theorem IsBounded.withSign {k : Nat} {d : Decimal} (h : d.IsBounded k) (negative : Bool) :
    IsBounded k { d with negative } :=
  ⟨h.digits, h.exponent⟩

theorem width_le {n k : Nat} (hk : 0 < k) (h : n < 10 ^ k) : width n ≤ k :=
  (Nat.length_toDigits_le_iff (by decide) hk).mpr h

theorem fraction_bounds (x : Float) :
    (fraction x).1 < numeratorBound ∧ (fraction x).2.log2 ≤ 1074 := by
  have he : ((x.toBits >>> 52) &&& 0x7FF).toNat ≤ 2047 := by
    rw [UInt64.toNat_and]
    exact Nat.and_le_right
  have hf : (x.toBits &&& 0xFFFFFFFFFFFFF).toNat < 2 ^ 52 := by
    rw [UInt64.toNat_and]
    exact Nat.lt_of_le_of_lt Nat.and_le_right (by decide)
  have hhidden : hiddenBit = 2 ^ 52 := by decide
  unfold fraction
  dsimp only
  generalize ((x.toBits >>> 52) &&& 0x7FF).toNat = e at he
  generalize (x.toBits &&& 0xFFFFFFFFFFFFF).toNat = f at hf
  have hone : hiddenBit + f < 2 ^ 53 := by omega
  have hsmall : 2 ^ 52 < numeratorBound := by decide +kernel
  have hlarge : 2 ^ 53 < numeratorBound := by decide +kernel
  split
  · generalize hk : 1074 = k
    rw [Nat.pow_eq, Nat.log2_two_pow]
    exact ⟨hf.trans hsmall, Nat.le_refl _⟩
  · split
    · refine ⟨?_, Nat.zero_le _⟩
      have hle : e - 1075 ≤ 972 := by omega
      have hshift := Nat.pow_le_pow_right Nat.two_pos hle
      calc (hiddenBit + f) * Nat.pow 2 (e - 1075)
        _ < 2 ^ 53 * 2 ^ (e - 1075) := Nat.mul_lt_mul_of_pos_right hone (Nat.two_pow_pos _)
        _ ≤ 2 ^ 53 * 2 ^ 972 := Nat.mul_le_mul_left _ hshift
        _ = numeratorBound := by decide +kernel
    · rw [Nat.pow_eq, Nat.log2_two_pow]
      exact ⟨hone.trans hlarge, by omega⟩

/-- A decimal on a grid is the exact multiple below the number, or the one above it. -/
theorem onGrid?_cases {tie : Tie} {x : Float} {num den : Nat} {g : Int} {d : Decimal}
    (h : onGrid? tie x num den g = some d) :
    d.exponent = g ∧ d.digits ≤ (inUnits num den g).1 / (inUnits num den g).2 + 1 := by
  unfold onGrid? at h
  dsimp only at h
  split at h
  · cases h
    exact ⟨rfl, Nat.le_succ _⟩
  · cases h
    exact ⟨rfl, Nat.le_refl _⟩
  · cases h
  · split at h
    · cases h
      exact ⟨rfl, Nat.le_succ _⟩
    · cases h
      exact ⟨rfl, Nat.le_refl _⟩
    · split at h
      · cases h
        exact ⟨rfl, Nat.le_succ _⟩
      · cases h
        exact ⟨rfl, Nat.le_refl _⟩

theorem scale_bounds {num : Nat} (hnum : num < numeratorBound) (den : Nat) :
    -330 < scale num den ∧ scale num den ≤ maxWidth - 330 := by
  have hpos : 0 < width (num * Nat.pow 10 330 / den) := Nat.length_toDigits_pos
  have hle : width (num * Nat.pow 10 330 / den) ≤ maxWidth := by
    apply width_le (by decide)
    calc num * Nat.pow 10 330 / den
      _ ≤ num * Nat.pow 10 330 := Nat.div_le_self _ _
      _ < numeratorBound * Nat.pow 10 330 := Nat.mul_lt_mul_of_pos_right hnum (by decide +kernel)
      _ ≤ 10 ^ maxWidth := by decide +kernel
  unfold scale
  omega

theorem isBounded_onGrid? {tie : Tie} {x : Float} {num den : Nat} {i : Nat} {d : Decimal}
    (hnum : num < numeratorBound) (hi : i < 17)
    (h : onGrid? tie x num den (scale num den - (i + 1)) = some d) : d.IsBounded maxWidth := by
  obtain ⟨hexponent, hdigits⟩ := onGrid?_cases h
  obtain ⟨hlow, hhigh⟩ := scale_bounds hnum den
  have hwidth : maxWidth = 1100 := rfl
  generalize hg : scale num den - (i + 1) = g at hexponent hdigits
  refine ⟨?_, by omega⟩
  have hten : (-g).toNat ≤ 346 := by omega
  have hunits : (inUnits num den g).1 = num * 10 ^ (-g).toNat := rfl
  calc d.digits
    _ ≤ (inUnits num den g).1 / (inUnits num den g).2 + 1 := hdigits
    _ ≤ num * 10 ^ (-g).toNat + 1 := Nat.add_le_add_right (Nat.div_le_self _ _) 1
    _ ≤ numeratorBound * 10 ^ 346 + 1 :=
      Nat.add_le_add_right (Nat.mul_le_mul hnum.le (Nat.pow_le_pow_right (by decide) hten)) 1
    _ < 10 ^ maxWidth := by decide +kernel

theorem isBounded_exact {num den : Nat} (hnum : num < numeratorBound) (hden : den.log2 ≤ 1074) :
    (exact num den).IsBounded maxWidth := by
  have hwidth : maxWidth = 1100 := rfl
  unfold exact
  refine ⟨?_, by dsimp only; omega⟩
  calc num * Nat.pow 5 den.log2
    _ < numeratorBound * 5 ^ den.log2 := Nat.mul_lt_mul_of_pos_right hnum (Nat.pow_pos (by decide))
    _ ≤ numeratorBound * 5 ^ 1074 := Nat.mul_le_mul_left _ (Nat.pow_le_pow_right (by decide) hden)
    _ ≤ 10 ^ maxWidth := by decide +kernel

/-- The zeros that are dropped are no more than there are digits. -/
theorem IsBounded.normalize {k : Nat} {d : Decimal} (h : d.IsBounded k) :
    d.normalize.IsBounded (2 * k) := by
  by_cases hzero : d.digits = 0
  · unfold Decimal.normalize
    rw [hzero, stripZeros_zero]
    exact isBounded_zero _ _
  · obtain ⟨m, zeros, hstrip, hm, hlast⟩ := exists_stripZeros hzero d.exponent
    have hdigits := h.digits
    have hexponent := h.exponent
    have hpos : 0 < m := by
      rcases Nat.eq_zero_or_pos m with rfl | hpos
      · rw [Nat.zero_mod] at hlast
        exact absurd rfl hlast
      · exact hpos
    have hm_le : m ≤ d.digits := hm ▸ Nat.le_mul_of_pos_right m (Nat.pow_pos (by decide))
    have hzeros_le : 10 ^ zeros ≤ d.digits := hm ▸ Nat.le_mul_of_pos_left _ hpos
    have hzeros : zeros < k :=
      (Nat.pow_lt_pow_iff_right (by decide)).mp (hzeros_le.trans_lt hdigits)
    unfold Decimal.normalize
    rw [hstrip]
    refine ⟨hm_le.trans_lt (hdigits.trans_le (Nat.pow_le_pow_right (by decide) (by omega))), ?_⟩
    dsimp only
    omega

theorem isBounded_shortestPositive (tie : Tie) (x : Float) :
    (shortestPositive tie x).IsBounded (2 * maxWidth) := by
  obtain ⟨hnum, hden⟩ := fraction_bounds x
  obtain ⟨num, den, hfraction⟩ : ∃ num den, fraction x = (num, den) := ⟨_, _, rfl⟩
  rw [hfraction] at hnum hden
  unfold shortestPositive
  rw [hfraction]
  apply IsBounded.normalize
  cases hhit : (List.range 17).findSome? fun i : Nat =>
    onGrid? tie x num den (scale num den - (i + 1)) with
  | none => exact isBounded_exact hnum hden
  | some d =>
    obtain ⟨i, hi, hd⟩ := List.exists_of_findSome?_eq_some hhit
    exact isBounded_onGrid? hnum (List.mem_range.mp hi) hd

theorem isBounded_shortest? {tie : Tie} {x : Float} {d : Decimal} (h : shortest? tie x = some d) :
    d.IsBounded (2 * maxWidth) := by
  unfold shortest? at h
  split at h
  · cases h
    split
    · exact isBounded_zero _ _
    · exact (isBounded_shortestPositive tie _).withSign _
  · cases h

/-! ## Their texts -/

theorem length_numeral_le (n : Numeral) :
    n.chars.length ≤ n.whole.length + n.fraction.length + width n.exponent.natAbs + 4 := by
  unfold Numeral.chars exponentChars width
  simp only [List.length_append]
  have hsign : (if n.negative then ['-'] else []).length ≤ 1 := by split <;> simp
  have hfraction : (if n.fraction.isEmpty then [] else '.' :: n.fraction).length ≤
      n.fraction.length + 1 := by
    split <;> simp
  have hexponent : (if n.exponent = 0 then [] else
      'e' :: (if n.exponent < 0 then '-' else '+') :: Nat.toDigits 10 n.exponent.natAbs).length ≤
        (Nat.toDigits 10 n.exponent.natAbs).length + 2 := by
    split <;> simp
  omega

theorem length_plain_le (pointZero : Bool) (digits : List Char) (exponent : Int) :
    (plain pointZero digits exponent).1.length + (plain pointZero digits exponent).2.length ≤
      digits.length + exponent.natAbs + 1 := by
  unfold plain zeros
  split
  · rw [List.length_append, List.length_replicate]
    split <;> simp only [List.length_singleton, List.length_nil] <;> omega
  · dsimp only
    split
    · rw [List.splitAt_eq, List.length_take, List.length_drop]
      omega
    · rw [List.length_append, List.length_replicate, List.length_singleton]
      omega

/-- A decimal in any style. -/
theorem length_chars_le {k : Nat} (hk : 0 < k) (s : Style) {d : Decimal} (h : d.IsBounded k) :
    (s.chars d).length ≤ 3 * k + 5 := by
  have hexponent := h.exponent
  have hdigits : (Nat.toDigits 10 d.digits).length ≤ k := width_le hk h.digits
  have hchars : (s.chars d).length ≤ _ := length_numeral_le (s.numeral d)
  refine hchars.trans ?_
  unfold Style.numeral
  dsimp only
  generalize Nat.toDigits 10 d.digits = digits at hdigits
  split
  · have hplain := length_plain_le s.pointZero digits d.exponent
    have hzero : width (Int.natAbs 0) = 1 := by decide
    rw [hzero]
    omega
  · have hleading : (d.exponent + digits.length - 1).natAbs ≤ 2 * k := by omega
    have hwidth : width (d.exponent + digits.length - 1).natAbs ≤ 2 * k :=
      width_le (by omega) (hleading.trans_lt (Nat.lt_pow_self (by decide)))
    dsimp only
    rw [List.splitAt_eq, List.length_take, List.length_drop]
    omega

end Decimal

namespace Json
namespace Token

theorem length_charText_le (c : Char) : (charText c).length ≤ 6 := by
  unfold charText
  generalize escape? c = letter
  cases letter with
  | some e => exact (by decide : 2 ≤ 6)
  | none =>
    dsimp only
    by_cases hcontrol : c.toNat < 0x20
    · rw [if_pos hcontrol]
      exact Nat.le_refl 6
    · rw [if_neg hcontrol]
      exact (by decide : 1 ≤ 6)

theorem length_flatMap_charText_le (cs : List Char) :
    (cs.flatMap charText).length ≤ 6 * cs.length := by
  induction cs with
  | nil => exact Nat.zero_le _
  | cons c cs ih =>
    have hc := length_charText_le c
    rw [List.flatMap_cons, List.length_append, List.length_cons]
    omega

theorem length_textChars_le (s : String) : (textChars (some s)).length ≤ 6 * s.length + 2 := by
  have hquoted : textChars (some s) = '"' :: s.toList.flatMap charText ++ ['"'] := rfl
  have hchars := length_flatMap_charText_le s.toList
  rw [String.length_toList] at hchars
  rw [hquoted, List.length_append, List.length_cons, List.length_singleton]
  omega

end Token

theorem length_newLine (depth : Nat) : (newLine depth).length = 2 * depth + 1 := by
  simp [newLine]

/-- A token takes its own text and a new line, and no line is indented deeper than there are
tokens. -/
theorem length_layout_le {k n room depth : Nat} {ts : List Token} (hk : 0 < k)
    (hroom : k + 2 * n + 1 ≤ room)
    (hn : depth + ts.length ≤ n) (hts : ∀ t ∈ ts, t.chars.length ≤ k) :
    (layout depth ts).length ≤ ts.length * room := by
  fun_induction layout depth ts with
  | case1 => exact Nat.zero_le _
  | case2 depth ts ih | case3 depth ts ih =>
    rw [List.forall_mem_cons, List.forall_mem_cons] at hts
    simp only [List.length_cons, Nat.add_one_mul] at hn ⊢
    have hrest := ih (by omega) hts.2.2
    omega
  | case10 depth t ts _ _ _ _ _ _ _ _ ih =>
    rw [List.forall_mem_cons] at hts
    simp only [List.length_cons, List.length_append, Nat.add_one_mul] at hn ⊢
    have hrest := ih (by omega) hts.2
    omega
  | _ =>
    rename_i ih
    rw [List.forall_mem_cons] at hts
    simp only [List.length_cons, List.length_append, length_newLine, Nat.add_one_mul] at hn ⊢
    have hrest := ih (by omega) hts.2
    omega

theorem length_ofFloat_le {x : Float} {n : Decimal.Numeral} (h : ofFloat x = .decimal n) :
    (Token.scalar (ofFloat x)).chars.length ≤ 3 * (2 * Decimal.maxWidth) + 5 := by
  unfold ofFloat at h ⊢
  split at h
  · rename_i d hd
    exact Decimal.length_chars_le (by decide) numberStyle (Decimal.isBounded_shortest? hd)
  · cases h

end Json

/-! ## Settings -/

namespace Settings

theorem utf8Len_le (cs : List Char) : String.utf8Len cs ≤ 4 * cs.length := by
  induction cs with
  | nil => exact Nat.zero_le _
  | cons c cs ih =>
    have hc := c.utf8Size_le_four
    rw [String.utf8Len_cons, List.length_cons]
    omega

open Json Json.Token in
theorem tokens_toJson (s : Settings Float) {n : Decimal.Numeral}
    (h : ofFloat s.pauseThreshold = .decimal n) :
    tokens s.toJson =
      [.openObject, .text (some "enableOdometer"), .colon, .scalar (.bool s.enableOdometer),
        .comma, .text (some "enableWarning"), .colon, .scalar (.bool s.enableWarning),
        .comma, .text (some "autoPause"), .colon, .scalar (.bool s.autoPause),
        .comma, .text (some "pauseThreshold"), .colon, .scalar (.decimal n),
        .comma, .text (some "currencySymbol"), .colon, .text (some s.currencySymbol),
        .comma, .text (some "confirmSpoolSelection"), .colon,
          .scalar (.bool s.confirmSpoolSelection),
        .comma, .text (some "dismissResolvedWarning"), .colon,
          .scalar (.bool s.dismissResolvedWarning),
        .comma, .text (some "g90InfluencesExtruder"), .colon,
          .scalar (.bool s.g90InfluencesExtruder),
        .closeObject] := by
  unfold toJson
  rw [h]
  rfl

/-- The longest text of a token. -/
def maxTokenLength : Nat := 3 * (2 * Decimal.maxWidth) + 5

theorem length_token_le {s : Settings Float} (h : s.check = .ok ()) :
    ∀ t ∈ Json.tokens s.toJson, t.chars.length ≤ maxTokenLength := by
  obtain ⟨⟨hfinite, -, -⟩, hlength⟩ := check_eq_ok_iff.mp h
  obtain ⟨d, hd, -, -⟩ := Json.exists_ofFloat hfinite
  have hnumber := Json.length_ofFloat_le hd
  rw [hd] at hnumber
  change _ ≤ maxTokenLength at hnumber
  have hsymbol : (Json.Token.text (some s.currencySymbol)).chars.length ≤ maxTokenLength := by
    have hmax : maxTokenLength = 6605 ∧ maxSymbolLength = 8 := ⟨rfl, rfl⟩
    exact (Json.Token.length_textChars_le s.currencySymbol).trans (by omega)
  have hflag : ∀ b, (Json.Token.scalar (.bool b)).chars.length ≤ maxTokenLength := by decide
  have hmarks : ∀ t ∈ [Json.Token.openObject, .closeObject, .comma, .colon],
      t.chars.length ≤ maxTokenLength := by
    simp only [List.forall_mem_cons]
    decide
  have hkeys : ∀ key ∈ keys, (Json.Token.text (some key)).chars.length ≤ maxTokenLength := by decide
  simp only [keys, List.forall_mem_cons] at hkeys hmarks
  rw [tokens_toJson s hd]
  simp only [List.forall_mem_cons, hmarks, hkeys, hflag, hnumber, hsymbol, true_and]
  exact fun t ht => absurd ht List.not_mem_nil

/-- The text of accepted settings is not too large to be read. -/
theorem utf8ByteSize_text_le {s : Settings Float} (h : s.check = .ok ()) :
    s.text.utf8ByteSize ≤ maxFileSize := by
  obtain ⟨d, hd, -, -⟩ := Json.exists_ofFloat (check_eq_ok_iff.mp h).1.1
  have hcount : (Json.tokens s.toJson).length = 33 := by
    rw [tokens_toJson s hd]
    rfl
  have hlayout := Json.length_layout_le (by decide) (Nat.le_refl (maxTokenLength + 2 * 33 + 1))
    (by rw [hcount]) (length_token_le h)
  rw [hcount] at hlayout
  have hbytes := utf8Len_le (Json.layout 0 (Json.tokens s.toJson))
  have hmax : maxTokenLength = 6605 ∧ maxFileSize = 1048576 := ⟨rfl, rfl⟩
  show (String.ofList (Json.layout 0 (Json.tokens s.toJson))).utf8ByteSize ≤ maxFileSize
  rw [String.utf8ByteSize_ofList]
  omega

end Settings
end Filament
