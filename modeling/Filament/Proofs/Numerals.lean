import Filament.Json.Token
import Filament.Proofs.Normalize
import Filament.Text.Blank

/-!
Numerals in JSON text.

A numeral by its parts is read from what is written for it (`numeral?_integer`, `numeral?_decimal`).
The numeral of a decimal without trailing zeros is one in either form of the style, and denotes the
decimal (`isNumeral_numeral`, `normalize_numeral`).
-/

namespace Filament

open Decimal (isAsciiDigit exponent? exponentChars ofDigits zeros)

namespace Text

/-! ## Runs of characters -/

/-- A run of characters that satisfy `p` goes on no further in `cs`. -/
def Stops (p : Char → Bool) (cs : List Char) : Prop := cs.head?.all (!p ·) = true

variable {p : Char → Bool} {run rest : List Char}

theorem stops_nil : Stops p [] := rfl

theorem stops_cons {c : Char} (h : p c = false) : Stops p (c :: rest) := by
  show (!p c) = true
  rw [h]
  rfl

theorem takeWhile_append (hrun : ∀ c ∈ run, p c = true) (hrest : Stops p rest) :
    (run ++ rest).takeWhile p = run := by
  rw [List.takeWhile_append_of_pos hrun]
  cases rest with
  | nil => rw [List.takeWhile_nil, List.append_nil]
  | cons c rest =>
    have hc : p c = false := by simpa [Stops] using hrest
    rw [List.takeWhile_cons, hc, if_neg Bool.false_ne_true, List.append_nil]

theorem dropWhile_eq_self (hrest : Stops p rest) : rest.dropWhile p = rest := by
  cases rest with
  | nil => rfl
  | cons c rest =>
    have hc : p c = false := by simpa [Stops] using hrest
    rw [List.dropWhile_cons, hc, if_neg Bool.false_ne_true]

theorem dropWhile_append (hrun : ∀ c ∈ run, p c = true) (hrest : Stops p rest) :
    (run ++ rest).dropWhile p = rest := by
  rw [List.dropWhile_append_of_pos hrun, dropWhile_eq_self hrest]

theorem stops_append {cs : List Char} (hcs : Stops p cs) (hrest : Stops p rest) :
    Stops p (cs ++ rest) := by
  cases cs with
  | nil => exact hrest
  | cons c cs => exact hcs

theorem stops_append_left {cs : List Char} (hne : cs ≠ []) (hcs : Stops p cs) :
    Stops p (cs ++ rest) := by
  obtain ⟨c, cs, rfl⟩ := List.exists_cons_of_ne_nil hne
  exact hcs

theorem stops_of_forall {cs : List Char} (h : ∀ c ∈ cs, p c = false) : Stops p cs := by
  cases cs with
  | nil => exact stops_nil
  | cons c cs => exact stops_cons (h c List.mem_cons_self)

theorem stops_of_isPrefix {cs : List Char} (h : cs <+: rest) (hrest : Stops p rest) :
    Stops p cs := by
  obtain ⟨tail, rfl⟩ := h
  cases cs with
  | nil => exact stops_nil
  | cons c cs => exact hrest

theorem stops_dropWhile (p : Char → Bool) (cs : List Char) : Stops p (cs.dropWhile p) := by
  have hhead := List.head?_dropWhile_not p cs
  cases hdrop : cs.dropWhile p with
  | nil => exact stops_nil
  | cons c rest =>
    rw [hdrop] at hhead
    exact stops_cons hhead

/-- A text without blanks at its ends is left when the blanks around it are taken off. -/
theorem trimChars_append {before cs after : List Char} (hbefore : ∀ c ∈ before, isBlank c = true)
    (hafter : ∀ c ∈ after, isBlank c = true) (hne : cs ≠ []) (hstart : Stops isBlank cs)
    (hend : Stops isBlank cs.reverse) : trimChars (before ++ cs ++ after) = cs := by
  have hblank : ∀ c ∈ after.reverse, isBlank c = true :=
    fun c hc => hafter c (List.mem_reverse.mp hc)
  unfold trimChars
  rw [List.append_assoc, dropWhile_append hbefore (stops_append_left hne hstart),
    List.reverse_append, dropWhile_append hblank hend, List.reverse_reverse]

/-! ## Digits -/

theorem toNat_of_isDigit {c : Char} (h : c.isDigit = true) : 0x30 ≤ c.toNat ∧ c.toNat ≤ 0x39 := by
  unfold Char.isDigit at h
  rw [Bool.and_eq_true, decide_eq_true_iff, decide_eq_true_iff] at h
  exact h

theorem digitValue?_of_isDigit {c : Char} (h : c.isDigit = true) :
    digitValue? c = some (digitValue c) :=
  if_pos (toNat_of_isDigit h)

theorem digitValues?_of_isDigit {cs : List Char} (h : ∀ c ∈ cs, c.isDigit = true) :
    digitValues? cs = some (cs.map digitValue) := by
  unfold digitValues?
  induction cs with
  | nil => rfl
  | cons c cs ih =>
    rw [List.forall_mem_cons] at h
    rw [List.mapM_cons, digitValue?_of_isDigit h.1, ih h.2]
    rfl

theorem ofDigitValues_map (cs : List Char) :
    ofDigitValues (cs.map digitValue) = Nat.ofDigitChars 10 cs 0 := by
  unfold ofDigitValues
  rw [List.foldl_map, Nat.ofDigitChars_eq_foldl]
  rfl

theorem isDigit_of_mem_toDigits {n : Nat} : ∀ c ∈ Nat.toDigits 10 n, c.isDigit = true :=
  fun _ hc => Nat.isDigit_of_mem_toDigits (by decide) (by decide) hc

theorem natural?_of_isDigit {cs : List Char} (h : ∀ c ∈ cs, c.isDigit = true) (hne : cs ≠ []) :
    natural? cs = some (Nat.ofDigitChars 10 cs 0) := by
  unfold natural?
  rw [digitValues?_of_isDigit h, List.isEmpty_eq_false_iff.mpr hne, if_neg Bool.false_ne_true,
    Option.map_some, ofDigitValues_map]

theorem natural?_toDigits (n : Nat) : natural? (Nat.toDigits 10 n) = some n := by
  rw [natural?_of_isDigit isDigit_of_mem_toDigits Nat.toDigits_ne_nil,
    Nat.ofDigitChars_ten_toDigits]

theorem word?_of_isDigit {cs : List Char} (h : ∀ c ∈ cs, c.isDigit = true) (hne : cs ≠ [])
    (hle : Nat.ofDigitChars 10 cs 0 ≤ maxWord) : word? cs = some (Nat.ofDigitChars 10 cs 0) := by
  unfold word?
  rw [natural?_of_isDigit h hne, Option.filter_some, decide_eq_true hle, if_pos rfl]

theorem word?_of_isDigit_of_lt {cs : List Char} (h : ∀ c ∈ cs, c.isDigit = true) (hne : cs ≠ [])
    (hlt : maxWord < Nat.ofDigitChars 10 cs 0) : word? cs = none := by
  unfold word?
  rw [natural?_of_isDigit h hne, Option.filter_some, decide_eq_false (Nat.not_le.mpr hlt),
    if_neg Bool.false_ne_true]

end Text

namespace Decimal

/-! ## Digits of numerals -/

theorem isAsciiDigit_eq_isDigit (c : Char) : isAsciiDigit c = c.isDigit := by
  unfold isAsciiDigit Text.digitValue? Char.isDigit
  symm
  split
  · rename_i h
    rw [Option.isSome_some, Bool.and_eq_true, decide_eq_true_iff, decide_eq_true_iff]
    exact h
  · rename_i h
    rw [Option.isSome_none, Bool.eq_false_iff, Ne, Bool.and_eq_true, decide_eq_true_iff,
      decide_eq_true_iff]
    exact h

theorem isAsciiDigit_of_isDigit {c : Char} (h : c.isDigit = true) : isAsciiDigit c = true :=
  (isAsciiDigit_eq_isDigit c).trans h

theorem isDigit_of_mem_zeros {k : Nat} : ∀ c ∈ zeros k, c.isDigit = true := by
  intro c hc
  rw [List.eq_of_mem_replicate hc]
  rfl

theorem stops_exponentChars (e : Int) : Text.Stops isAsciiDigit (exponentChars e) := rfl

theorem exponent?_nil : exponent? [] = some 0 := rfl

theorem exponent?_exponentChars (e : Int) : exponent? (exponentChars e) = some e := by
  have hread : (do let n ← Text.natural? (Nat.toDigits 10 e.natAbs); pure (n : Int)) =
      some (e.natAbs : Int) := by
    rw [Text.natural?_toDigits]
    rfl
  unfold exponentChars exponent?
  dsimp only
  rw [if_pos (Or.inl rfl)]
  by_cases he : e < 0
  · rw [if_pos he]
    show Option.map _ (do let n ← Text.natural? (Nat.toDigits 10 e.natAbs); pure (n : Int)) = some e
    rw [hread, Option.map_some]
    congr 1
    omega
  · rw [if_neg he]
    show Option.map _ (do let n ← Text.natural? (Nat.toDigits 10 e.natAbs); pure (n : Int)) = some e
    rw [hread, Option.map_some]
    congr 1
    omega

/-- The decimal of digits by their values. -/
theorem ofDigits_map (negative : Bool) (whole fraction : List Char) (e : Int) :
    ofDigits negative (whole.map Text.digitValue) (fraction.map Text.digitValue) e =
      { negative, digits := Nat.ofDigitChars 10 (whole ++ fraction) 0,
        exponent := e - fraction.length } := by
  unfold ofDigits
  rw [← List.map_append, Text.ofDigitValues_map, List.length_map]

end Decimal

/-! ## Numerals by their parts -/

namespace Json
namespace Token

open Decimal
open Text (Stops stops_nil stops_cons stops_append_left takeWhile_append dropWhile_append)

variable {negative : Bool} {whole rest : List Char}

/-- The digits before the point: one zero, or digits of which the first is another one. -/
structure IsWholePart (ds : List Char) : Prop where
  isDigit : ∀ c ∈ ds, c.isDigit = true
  ne_nil : ds ≠ []
  leading : ∀ tail, ds = '0' :: tail → tail = []

theorem IsWholePart.isAsciiDigit (h : IsWholePart whole) : ∀ c ∈ whole, isAsciiDigit c = true :=
  fun c hc => isAsciiDigit_of_isDigit (h.isDigit c hc)

theorem toDigits_ne_zero_cons {n : Nat} (hpos : 0 < n) (tail : List Char) :
    Nat.toDigits 10 n ≠ '0' :: tail := by
  induction n using Nat.strongRecOn generalizing tail with
  | ind n ih =>
    by_cases hsmall : n < 10
    · rw [Nat.toDigits_of_lt_base hsmall]
      intro h
      exact hpos.ne' (Nat.digitChar_eq_zero.mp (List.head_eq_of_cons_eq h))
    · rw [Nat.toDigits_of_base_le (by decide) (by omega)]
      obtain ⟨c, cs, hcs⟩ :=
        List.exists_cons_of_ne_nil (Nat.toDigits_ne_nil (b := 10) (n := n / 10))
      rw [hcs]
      intro h
      apply ih (n / 10) (by omega) (by omega) cs
      rw [hcs, List.head_eq_of_cons_eq h]

theorem isWholePart_toDigits (n : Nat) : IsWholePart (Nat.toDigits 10 n) where
  isDigit := Text.isDigit_of_mem_toDigits
  ne_nil := Nat.toDigits_ne_nil
  leading tail h := by
    rcases Nat.eq_zero_or_pos n with rfl | hpos
    · rw [Nat.toDigits_zero] at h
      exact (List.tail_eq_of_cons_eq h).symm
    · exact absurd h (toDigits_ne_zero_cons hpos tail)

/-- Digits in front of more digits, unless they are a single zero. -/
theorem IsWholePart.of_append {n : Nat} (hpos : 0 < n) (hne : whole ≠ [])
    (h : whole ++ rest = Nat.toDigits 10 n) : IsWholePart whole where
  isDigit c hc := Text.isDigit_of_mem_toDigits c (h ▸ List.mem_append_left rest hc)
  ne_nil := hne
  leading tail hwhole := by
    rw [hwhole, List.cons_append] at h
    exact absurd h.symm (toDigits_ne_zero_cons hpos _)

/-- More digits may follow, except on a single zero. -/
theorem IsWholePart.append {more : List Char} (h : IsWholePart whole) (hne : whole ≠ ['0'])
    (hmore : ∀ c ∈ more, c.isDigit = true) : IsWholePart (whole ++ more) where
  isDigit c hc := (List.mem_append.mp hc).elim (h.isDigit c) (hmore c)
  ne_nil := List.append_ne_nil_of_left_ne_nil h.ne_nil more
  leading tail htail := by
    obtain ⟨c, cs, rfl⟩ := List.exists_cons_of_ne_nil h.ne_nil
    rw [List.cons_append] at htail
    have hc : c = '0' := List.head_eq_of_cons_eq htail
    rw [hc, h.leading cs (by rw [hc])] at hne
    exact absurd rfl hne

theorem unsigned?_append (negative : Bool) (hwhole : IsWholePart whole)
    (hrest : Stops isAsciiDigit rest) :
    unsigned? negative (whole ++ rest) = numeralTail? negative whole rest := by
  unfold unsigned?
  rw [takeWhile_append hwhole.isAsciiDigit hrest, dropWhile_append hwhole.isAsciiDigit hrest]
  split
  · exact absurd rfl hwhole.ne_nil
  · cases hwhole.leading _ rfl
  · rfl

/-- A numeral without fraction and exponent is an integer. -/
theorem unsigned?_toDigits (negative : Bool) (n : Nat) :
    unsigned? negative (Nat.toDigits 10 n) = some (.integer negative n) := by
  have h := unsigned?_append negative (isWholePart_toDigits n) stops_nil
  rw [List.append_nil] at h
  rw [h, numeralTail?, Nat.ofDigitChars_ten_toDigits]

/-- A numeral that is told from an integer by its fraction or its exponent. -/
structure IsNumeral (n : Numeral) : Prop where
  whole : IsWholePart n.whole
  fraction : ∀ c ∈ n.fraction, c.isDigit = true
  marked : n.fraction ≠ [] ∨ n.exponent ≠ 0

variable {n : Numeral}

theorem IsNumeral.isDigit (h : IsNumeral n) : ∀ c ∈ n.whole ++ n.fraction, c.isDigit = true :=
  List.forall_mem_append.mpr ⟨h.whole.isDigit, h.fraction⟩

/-- What is written behind the fraction. -/
theorem exponent?_tail (e : Int) :
    exponent? (if e = 0 then [] else exponentChars e) = some e := by
  split
  · rename_i h
    rw [h, exponent?_nil]
  · exact exponent?_exponentChars e

theorem stops_tail (e : Int) : Stops isAsciiDigit (if e = 0 then [] else exponentChars e) := by
  split
  · exact stops_nil
  · exact stops_exponentChars e

theorem numeralTail?_fraction (h : IsNumeral n) (hne : n.fraction ≠ []) :
    numeralTail? n.negative n.whole
        ('.' :: n.fraction ++ if n.exponent = 0 then [] else exponentChars n.exponent) =
      some (.decimal n) := by
  have hascii : ∀ c ∈ n.fraction, isAsciiDigit c = true :=
    fun c hc => isAsciiDigit_of_isDigit (h.fraction c hc)
  rw [List.cons_append, numeralTail?]
  dsimp only
  rw [takeWhile_append hascii (stops_tail n.exponent),
    dropWhile_append hascii (stops_tail n.exponent), exponent?_tail,
    List.isEmpty_eq_false_iff.mpr hne]
  rfl

theorem numeralTail?_exponent (hfraction : n.fraction = []) (he : n.exponent ≠ 0) :
    numeralTail? n.negative n.whole (exponentChars n.exponent) = some (.decimal n) := by
  obtain ⟨negative, whole, fraction, e⟩ := n
  cases hfraction
  show (do
    return Json.decimal
      { negative, whole, fraction := [], exponent := ← exponent? (exponentChars e) }) = _
  rw [exponent?_exponentChars]
  rfl

theorem unsigned?_numeral (h : IsNumeral n) :
    unsigned? n.negative (n.whole ++ ((if n.fraction.isEmpty then [] else '.' :: n.fraction) ++
      if n.exponent = 0 then [] else exponentChars n.exponent)) = some (.decimal n) := by
  by_cases hfraction : n.fraction = []
  · have he : n.exponent ≠ 0 := h.marked.resolve_left (not_not.mpr hfraction)
    rw [hfraction, List.isEmpty_nil, if_pos rfl, List.nil_append, if_neg he,
      unsigned?_append n.negative h.whole (stops_exponentChars n.exponent)]
    exact numeralTail?_exponent hfraction he
  · rw [List.isEmpty_eq_false_iff.mpr hfraction, if_neg Bool.false_ne_true,
      unsigned?_append n.negative h.whole
        (stops_append_left (List.cons_ne_nil _ _) (stops_cons rfl))]
    exact numeralTail?_fraction h hfraction

/-! ## Signs -/

theorem numeral?_of_unsigned {body : List Char} {v : Json} (h : unsigned? negative body = some v) :
    numeral? ((if negative then ['-'] else []) ++ body) = some v := by
  cases negative with
  | true => exact h
  | false =>
    show numeral? body = some v
    unfold numeral?
    split
    · cases h
    · exact h

theorem numeral?_integer (negative : Bool) (n : Nat) :
    numeral? (scalarChars (.integer negative n)) = some (.integer negative n) :=
  numeral?_of_unsigned (unsigned?_toDigits negative n)

theorem numeral?_decimal (h : IsNumeral n) :
    numeral? (scalarChars (.decimal n)) = some (.decimal n) := by
  have hread := numeral?_of_unsigned (unsigned?_numeral h)
  show numeral? n.chars = _
  unfold Numeral.chars
  rw [List.append_assoc, List.append_assoc]
  exact hread

/-! ## The characters of a numeral -/

theorem isNumeral_of_isDigit {c : Char} (h : c.isDigit = true) : isNumeral c = true := by
  unfold isNumeral
  rw [isAsciiDigit_of_isDigit h]
  rfl

theorem isNumeral_of_mem_toDigits {n : Nat} : ∀ c ∈ Nat.toDigits 10 n, isNumeral c = true :=
  fun c hc => isNumeral_of_isDigit (Text.isDigit_of_mem_toDigits c hc)

theorem isNumeral_of_mem_sign {negative : Bool} :
    ∀ c ∈ if negative then ['-'] else [], isNumeral c = true := by
  cases negative with
  | true => exact List.forall_mem_singleton.mpr rfl
  | false => exact fun c hc => absurd hc List.not_mem_nil

theorem isNumeral_of_mem_integer (negative : Bool) (n : Nat) :
    ∀ c ∈ scalarChars (.integer negative n), isNumeral c = true := by
  intro c hc
  rcases List.mem_append.mp hc with hsign | hdigit
  · exact isNumeral_of_mem_sign c hsign
  · exact isNumeral_of_mem_toDigits c hdigit

theorem isNumeral_of_mem_exponentChars {e : Int} :
    ∀ c ∈ if e = 0 then [] else exponentChars e, isNumeral c = true := by
  unfold exponentChars
  intro c hc
  split at hc
  · cases hc
  · rcases List.mem_cons.mp hc with rfl | hc
    · decide
    · rcases List.mem_cons.mp hc with rfl | hdigit
      · split <;> decide
      · exact isNumeral_of_mem_toDigits c hdigit

theorem isNumeral_of_mem_decimal (h : IsNumeral n) :
    ∀ c ∈ scalarChars (.decimal n), isNumeral c = true := by
  intro c hc
  have hchars : c ∈ n.chars := hc
  unfold Numeral.chars at hchars
  simp only [List.mem_append] at hchars
  rcases hchars with ((hsign | hwhole) | hfraction) | hexponent
  · exact isNumeral_of_mem_sign c hsign
  · exact isNumeral_of_isDigit (h.whole.isDigit c hwhole)
  · split at hfraction
    · cases hfraction
    · rcases List.mem_cons.mp hfraction with rfl | hdigit
      · decide
      · exact isNumeral_of_isDigit (h.fraction c hdigit)
  · exact isNumeral_of_mem_exponentChars c hexponent

/-- A numeral starts with a digit or a sign, so it is told from a word by its first character. -/
theorem exists_cons_of_numeral? {cs : List Char} {v : Json} (h : numeral? cs = some v) :
    ∃ c rest, cs = c :: rest ∧ (c = '-' ∨ c.isDigit = true) := by
  cases cs with
  | nil => cases h
  | cons c rest =>
    refine ⟨c, rest, rfl, ?_⟩
    by_cases hsign : c = '-'
    · exact Or.inl hsign
    · right
      have hunsigned : unsigned? false (c :: rest) = some v := by
        unfold numeral? at h
        split at h
        · rename_i heq
          exact absurd (List.head_eq_of_cons_eq heq) hsign
        · exact h
      by_contra hdigit
      have hnone : isAsciiDigit c = false :=
        (isAsciiDigit_eq_isDigit c).trans (Bool.eq_false_iff.mpr hdigit)
      unfold unsigned? at hunsigned
      rw [List.takeWhile_cons, hnone] at hunsigned
      cases hunsigned

end Token

/-! ## What a style writes -/

open Decimal Token

variable {d : Decimal} {whole fraction : List Char} {e : Int}

theorem ofDigitChars_append_zeros (n k : Nat) :
    Nat.ofDigitChars 10 (Nat.toDigits 10 n ++ zeros k) 0 = n * 10 ^ k := by
  rw [Nat.ofDigitChars_append, Nat.ofDigitChars_ten_toDigits]
  exact Nat.ofDigitChars_replicate_zero.trans (Nat.mul_comm _ _)

theorem ofDigitChars_zeros_append (k n : Nat) :
    Nat.ofDigitChars 10 (zeros k ++ Nat.toDigits 10 n) 0 = n := by
  have hzeros : Nat.ofDigitChars 10 (zeros k) 0 = 0 :=
    Nat.ofDigitChars_replicate_zero.trans (Nat.mul_zero _)
  rw [Nat.ofDigitChars_append, hzeros, Nat.ofDigitChars_ten_toDigits]

theorem append_zero (k : Nat) : zeros k ++ ['0'] = zeros (k + 1) := List.replicate_succ'.symm

theorem digits_pos (h : d.normalize = d) (he : d.exponent ≠ 0) : 0 < d.digits := by
  have := Decimal.normalize_eq_self_iff.mp h
  omega

/-- The digits on both sides of a point, and an exponent, write a decimal. -/
structure Writes (d : Decimal) (parts : List Char × List Char) (e : Int) : Prop where
  whole : IsWholePart parts.1
  fraction : ∀ c ∈ parts.2, c.isDigit = true
  normalize_eq : (Numeral.decimal
    { negative := d.negative, whole := parts.1, fraction := parts.2, exponent := e }).normalize = d

/-- A zero after the point of a whole number. -/
theorem writes_zeros (h : d.normalize = d) (he : 0 ≤ d.exponent) :
    Writes d (Nat.toDigits 10 d.digits ++ zeros d.exponent.toNat, ['0']) 0 where
  whole := by
    by_cases hzero : d.exponent = 0
    · rw [hzero]
      show IsWholePart (Nat.toDigits 10 d.digits ++ [])
      rw [List.append_nil]
      exact isWholePart_toDigits d.digits
    · exact (isWholePart_toDigits d.digits).append (toDigits_ne_zero_cons (digits_pos h hzero) [])
        isDigit_of_mem_zeros
  fraction := List.forall_mem_singleton.mpr rfl
  normalize_eq := by
    obtain ⟨negative, n, e⟩ := d
    obtain ⟨k, rfl⟩ := Int.eq_ofNat_of_zero_le he
    have hscale := Decimal.normalize_scale negative n (k + 1) k
    rw [h] at hscale
    unfold Numeral.decimal
    dsimp only [Int.toNat_natCast]
    rw [List.append_assoc, append_zero, ofDigitChars_append_zeros, ← hscale]
    congr 2
    push_cast
    show (0 : Int) - 1 = k - (k + 1)
    omega

/-- A point among the digits. -/
theorem writes_append (h : d.normalize = d) (hsplit : whole ++ fraction = Nat.toDigits 10 d.digits)
    (hwhole : IsWholePart whole) (he : e - fraction.length = d.exponent) :
    Writes d (whole, fraction) e where
  whole := hwhole
  fraction c hc := Text.isDigit_of_mem_toDigits c (hsplit ▸ List.mem_append_right whole hc)
  normalize_eq := by
    unfold Numeral.decimal
    dsimp only
    rw [hsplit, Nat.ofDigitChars_ten_toDigits, he]
    exact h

/-- Zeros between the point and the digits. -/
theorem writes_leadingZeros (h : d.normalize = d) {k : Nat}
    (he : d.exponent = -((k + (Nat.toDigits 10 d.digits).length : Nat) : Int)) :
    Writes d (['0'], zeros k ++ Nat.toDigits 10 d.digits) 0 where
  whole := isWholePart_toDigits 0
  fraction c hc :=
    (List.mem_append.mp hc).elim (isDigit_of_mem_zeros c) (Text.isDigit_of_mem_toDigits c)
  normalize_eq := by
    have hdigits := ofDigitChars_zeros_append (k + 1) d.digits
    unfold Numeral.decimal
    dsimp only
    rw [← List.append_assoc]
    show (Decimal.mk d.negative (Nat.ofDigitChars 10 (zeros (k + 1) ++ _) 0) _).normalize = d
    rw [hdigits, List.length_append, zeros, List.length_replicate, Int.zero_sub, ← he]
    exact h

theorem writes_plain (h : d.normalize = d) :
    Writes d (plain true (Nat.toDigits 10 d.digits) d.exponent) 0 := by
  unfold plain
  split
  · rename_i he
    exact writes_zeros h he
  · rename_i he
    dsimp only
    split
    · rename_i hinside
      rw [List.splitAt_eq]
      refine writes_append h (List.take_append_drop _ _) (.of_append (digits_pos h (by omega)) ?_
        (List.take_append_drop _ _)) ?_
      · exact List.ne_nil_of_length_pos (by rw [List.length_take]; omega)
      · rw [List.length_drop]
        omega
    · rename_i houtside
      exact writes_leadingZeros h (by omega)

/-- There is something after the point. -/
theorem plain_ne_nil (n : Nat) (e : Int) : (plain true (Nat.toDigits 10 n) e).2 ≠ [] := by
  unfold plain
  split
  · exact List.cons_ne_nil _ _
  · dsimp only
    split
    · rw [List.splitAt_eq]
      exact List.ne_nil_of_length_pos (by rw [List.length_drop]; omega)
    · exact List.append_ne_nil_of_right_ne_nil _ Nat.toDigits_ne_nil

/-- One digit before the point. -/
theorem writes_scientific (h : d.normalize = d) :
    Writes d ((Nat.toDigits 10 d.digits).splitAt 1)
      (d.exponent + (Nat.toDigits 10 d.digits).length - 1) := by
  obtain ⟨c, cs, hdigits⟩ :=
    List.exists_cons_of_ne_nil (Nat.toDigits_ne_nil (b := 10) (n := d.digits))
  have hdigit := Text.isDigit_of_mem_toDigits c (hdigits ▸ List.mem_cons_self)
  rw [hdigits, List.splitAt_eq]
  show Writes d ([c], cs) _
  refine writes_append h hdigits.symm ?_ ?_
  · exact ⟨List.forall_mem_singleton.mpr hdigit, List.cons_ne_nil _ _, fun tail htail =>
      (List.tail_eq_of_cons_eq htail).symm⟩
  · rw [List.length_cons]
    show d.exponent + ((cs.length + 1 : Nat) : Int) - 1 - cs.length = d.exponent
    omega

theorem writes_numeral (h : d.normalize = d) :
    Writes d ((numberStyle.numeral d).whole, (numberStyle.numeral d).fraction)
      (numberStyle.numeral d).exponent := by
  unfold Style.numeral
  dsimp only
  split
  · exact writes_plain h
  · exact writes_scientific h

/-- Without an exponent the point stands where it belongs. -/
theorem numeral_eq_plain (h : (numberStyle.numeral d).exponent = 0) :
    numberStyle.numeral d =
      { negative := d.negative
        whole := (plain true (Nat.toDigits 10 d.digits) d.exponent).1
        fraction := (plain true (Nat.toDigits 10 d.digits) d.exponent).2
        exponent := 0 } := by
  unfold Style.numeral at h ⊢
  dsimp only at h ⊢
  split at h
  · rename_i hplain
    rw [if_pos hplain]
    rfl
  · rename_i hexponent
    refine absurd ?_ hexponent
    have hleading : d.exponent + (Nat.toDigits 10 d.digits).length - 1 = 0 := h
    rw [hleading]
    decide

/-- The numeral of a decimal is told from an integer. -/
theorem isNumeral_numeral (h : d.normalize = d) : IsNumeral (numberStyle.numeral d) where
  whole := (writes_numeral h).whole
  fraction := (writes_numeral h).fraction
  marked := by
    by_cases hplain : (numberStyle.numeral d).exponent = 0
    · rw [numeral_eq_plain hplain]
      exact Or.inl (plain_ne_nil d.digits d.exponent)
    · exact Or.inr hplain

/-- It denotes the decimal. -/
theorem normalize_numeral (h : d.normalize = d) : (numberStyle.numeral d).decimal.normalize = d :=
  (writes_numeral h).normalize_eq

end Json
end Filament
