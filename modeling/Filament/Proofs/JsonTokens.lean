import Filament.Json.Printer
import Filament.Proofs.Numerals

/-!
The tokens of a text.

What is written for a token is read as the token, so the scan of a text in which tokens stand one
after another, with any blanks between them, gives these tokens (`scan_of_lays`). Only after a
scalar has to come something else, since two of them in a row would be read as one.
-/

namespace Filament
namespace Json
namespace Token

open Text (Stops stops_nil stops_cons takeWhile_append dropWhile_append)

/-! ## Texts -/

theorem units?_escaped {c e : Char} (h : escape? c = some e) (acc : List Unit16)
    (rest : List Char) : units? acc ('\\' :: e :: rest) = units? (.char c :: acc) rest := by
  unfold escape? at h
  split at h <;> cases h <;> rfl

theorem hexCode?_control : ∀ n : Fin 32,
    hexCode? '0' '0' (Nat.digitChar (n / 16)) (Nat.digitChar (n % 16)) = some n.val := by
  decide

theorem unitOfCode_toNat (c : Char) : unitOfCode c.toNat = .char c := by
  have hhalf : isHalf c.toNat = false := by
    unfold isHalf
    have := c.valid
    change c.toNat < 0xD800 ∨ 0xDFFF < c.toNat ∧ c.toNat < 0x110000 at this
    rw [Bool.and_eq_false_iff, decide_eq_false_iff_not, decide_eq_false_iff_not]
    omega
  unfold unitOfCode
  rw [hhalf, if_neg Bool.false_ne_true, Char.ofNat_toNat]

theorem units?_control {c : Char} (h : c.toNat < 0x20) (acc : List Unit16) (rest : List Char) :
    units? acc ('\\' :: 'u' :: '0' :: '0' :: Nat.digitChar (c.toNat / 16) :: Nat.digitChar
      (c.toNat % 16) :: rest) = units? (.char c :: acc) rest := by
  have hcode := hexCode?_control ⟨c.toNat, h⟩
  dsimp only at hcode
  rw [units?, hcode]
  dsimp only
  rw [unitOfCode_toNat]

theorem units?_char {c : Char} (hquote : c ≠ '"') (hslash : c ≠ '\\') (hcontrol : ¬c.toNat < 0x20)
    (acc : List Unit16) (rest : List Char) :
    units? acc (c :: rest) = units? (.char c :: acc) rest := by
  rw [units?]
  · rw [if_neg (not_or.mpr ⟨hslash, hcontrol⟩)]
  · exact hquote
  · intro _ _ _ _ _ hc
    exact absurd hc hslash
  · intro _ _ hc
    exact absurd hc hslash

theorem units?_plain {c : Char} (h : escape? c = none) (hcontrol : ¬c.toNat < 0x20)
    (acc : List Unit16)
    (rest : List Char) : units? acc (c :: rest) = units? (.char c :: acc) rest := by
  have hquote : c ≠ '"' := by
    rintro rfl
    cases h
  have hslash : c ≠ '\\' := by
    rintro rfl
    cases h
  exact units?_char hquote hslash hcontrol acc rest

theorem units?_charText (c : Char) (acc : List Unit16) (rest : List Char) :
    units? acc (charText c ++ rest) = units? (.char c :: acc) rest := by
  unfold charText
  split
  · rename_i e he
    exact units?_escaped he acc rest
  · rename_i he
    split
    · rename_i hcontrol
      exact units?_control hcontrol acc rest
    · rename_i hcontrol
      exact units?_plain he hcontrol acc rest

/-- The half of a pair that stands for a missing text. -/
theorem units?_half (acc : List Unit16) (rest : List Char) :
    units? acc ('\\' :: 'u' :: 'd' :: '8' :: '0' :: '0' :: rest) =
      units? (.half 0xD800 :: acc) rest := by
  have hcode : hexCode? 'd' '8' '0' '0' = some 0xD800 := by decide
  have hhalf : unitOfCode 0xD800 = .half 0xD800 := if_pos (by decide)
  rw [units?, hcode]
  dsimp only
  rw [hhalf]

theorem units?_text (s : List Char) (acc : List Unit16) (rest : List Char) :
    units? acc (s.flatMap charText ++ '"' :: rest) = some (acc.reverse ++ s.map .char, rest) := by
  induction s generalizing acc with
  | nil =>
    rw [List.flatMap_nil, List.nil_append, units?, List.map_nil, List.append_nil]
  | cons c s ih =>
    rw [List.flatMap_cons, List.append_assoc, units?_charText, ih, List.reverse_cons,
      List.append_assoc]
    rfl

theorem joinUnits?_map_char (s : List Char) : joinUnits? (s.map .char) = some s := by
  induction s with
  | nil => rfl
  | cons c s ih =>
    rw [List.map_cons, joinUnits?, ih]
    rfl

/-! ## One token -/

variable {acc : List Token} {rest : List Char}

/-- No scalar goes on here. -/
def Breaks (rest : List Char) : Prop := Stops isLetter rest ∧ Stops isNumeral rest

theorem scanFrom_blank {c : Char} (h : isBlank c = true) :
    scanFrom acc (c :: rest) = scanFrom acc rest := by
  rw [scanFrom, if_pos h]

theorem scanFrom_quote {cs : List Char} {units : List Unit16}
    (h : units? [] cs = some (units, rest)) : scanFrom acc ('"' :: cs) =
      scanFrom (.text ((joinUnits? units).map String.ofList) :: acc) rest := by
  rw [scanFrom, if_neg (by decide), if_pos rfl]
  split
  · rename_i units' rest' heq
    rw [h] at heq
    cases heq
    rfl
  · rename_i heq
    rw [h] at heq
    cases heq

theorem scanFrom_text (s : Option String) :
    scanFrom acc (textChars s ++ rest) = scanFrom (.text s :: acc) rest := by
  have hread : ∃ units, units? [] ((textChars s).tail ++ rest) = some (units, rest) ∧
      (joinUnits? units).map String.ofList = s := by
    cases s with
    | none => exact ⟨[.half 0xD800], units?_half [] ('"' :: rest), rfl⟩
    | some s =>
      refine ⟨s.toList.map .char, ?_, ?_⟩
      · show units? [] (s.toList.flatMap charText ++ ['"'] ++ rest) = _
        rw [List.append_assoc]
        exact units?_text s.toList [] rest
      · rw [joinUnits?_map_char, Option.map_some, String.ofList_toList]
  obtain ⟨units, hunits, hjoin⟩ := hread
  have hquote : textChars s ++ rest = '"' :: ((textChars s).tail ++ rest) := by
    cases s <;> rfl
  rw [hquote, scanFrom_quote hunits, hjoin]

/-- A blank or a quote is part of no scalar. -/
theorem isBlank_eq_false {c : Char} (h : isLetter c = true ∨ isNumeral c = true) :
    isBlank c = false := by
  rw [Bool.eq_false_iff]
  intro hblank
  simp only [isBlank, Bool.or_eq_true, beq_iff_eq] at hblank
  rcases hblank with ((rfl | rfl) | rfl) | rfl <;> revert h <;> decide

theorem ne_quote {c : Char} (h : isLetter c = true ∨ isNumeral c = true) : c ≠ '"' := by
  rintro rfl
  revert h
  decide

/-- A run of letters is a word or no token, whatever follows it. -/
theorem scanFrom_letters {c : Char} {cs : List Char} (hc : isLetter c = true)
    (hcs : ∀ d ∈ cs, isLetter d = true) (hrest : Stops isLetter rest) :
    scanFrom acc (c :: cs ++ rest) =
      (word? (c :: cs)).bind fun v => scanFrom (.scalar v :: acc) rest := by
  rw [List.cons_append, scanFrom, isBlank_eq_false (Or.inl hc), if_neg Bool.false_ne_true,
    if_neg (ne_quote (Or.inl hc)), if_pos hc, takeWhile_append hcs hrest]
  cases word? (c :: cs) with
  | none => rfl
  | some v =>
    dsimp only
    rw [dropWhile_append hcs hrest, Option.bind_some]

theorem scanFrom_word {c : Char} {cs : List Char} {v : Json} (h : word? (c :: cs) = some v)
    (hall : (c :: cs).all isLetter = true) (hrest : Stops isLetter rest) :
    scanFrom acc (c :: cs ++ rest) = scanFrom (.scalar v :: acc) rest := by
  have hletter := List.forall_mem_cons.mp (List.all_eq_true.mp hall)
  rw [scanFrom_letters hletter.1 hletter.2 hrest, h, Option.bind_some]

/-- A run of characters of numerals is a numeral or no token, whatever follows it. -/
theorem scanFrom_numerals {c : Char} {cs : List Char} (hletter : isLetter c = false)
    (hc : isNumeral c = true) (hcs : ∀ d ∈ cs, isNumeral d = true) (hrest : Stops isNumeral rest) :
    scanFrom acc (c :: cs ++ rest) =
      (numeral? (c :: cs)).bind fun v => scanFrom (.scalar v :: acc) rest := by
  rw [List.cons_append, scanFrom, isBlank_eq_false (Or.inr hc), if_neg Bool.false_ne_true,
    if_neg (ne_quote (Or.inr hc)), hletter, if_neg Bool.false_ne_true, if_pos hc,
    takeWhile_append hcs hrest]
  cases numeral? (c :: cs) with
  | none => rfl
  | some v =>
    dsimp only
    rw [dropWhile_append hcs hrest, Option.bind_some]

theorem isLetter_of_isDigit {c : Char} (h : c.isDigit = true) : isLetter c = false := by
  rw [Bool.eq_false_iff]
  intro hletter
  unfold isLetter at hletter
  rw [Bool.and_eq_true, decide_eq_true_iff, decide_eq_true_iff] at hletter
  have hnine := (Text.toNat_of_isDigit h).2
  have ha : 97 ≤ c.toNat := hletter.1
  omega

theorem scanFrom_numeral {cs : List Char} {v : Json} (h : numeral? cs = some v)
    (hnumeral : ∀ c ∈ cs, isNumeral c = true) (hrest : Stops isNumeral rest) :
    scanFrom acc (cs ++ rest) = scanFrom (.scalar v :: acc) rest := by
  obtain ⟨c, cs, rfl, hc⟩ := exists_cons_of_numeral? h
  rw [List.forall_mem_cons] at hnumeral
  have hletter : isLetter c = false := by
    rcases hc with rfl | hdigit
    · decide
    · exact isLetter_of_isDigit hdigit
  rw [scanFrom_numerals hletter hnumeral.1 hnumeral.2 hrest, h, Option.bind_some]

/-- The tokens that are read as they are written. A numeral has to be told from an integer. -/
def IsLegible : Token → Prop
  | .scalar (.decimal n) => IsNumeral n
  | .scalar (.string _) | .scalar (.array _) | .scalar (.object _) => False
  | _ => True

def isScalar : Token → Bool
  | .scalar _ => true
  | _ => false

theorem scanFrom_punctuation {c : Char} {t : Token} (h : punctuation? c = some t) :
    scanFrom acc (c :: rest) = scanFrom (t :: acc) rest := by
  have hother : isBlank c = false ∧ c ≠ '"' ∧ isLetter c = false ∧ isNumeral c = false := by
    unfold punctuation? at h
    split at h <;> first | decide | cases h
  obtain ⟨hblank, hquote, hletter, hnumeral⟩ := hother
  rw [scanFrom, hblank, if_neg Bool.false_ne_true, if_neg hquote, hletter,
    if_neg Bool.false_ne_true, hnumeral, if_neg Bool.false_ne_true, h]

/-- What is written for a token is read as the token. -/
theorem scanFrom_chars {t : Token} (h : t.IsLegible) (hrest : t.isScalar = true → Breaks rest) :
    scanFrom acc (t.chars ++ rest) = scanFrom (t :: acc) rest := by
  cases t with
  | openArray | closeArray | openObject | closeObject | comma | colon =>
    exact scanFrom_punctuation rfl
  | text s => exact scanFrom_text s
  | scalar v =>
    obtain ⟨hletter, hnumeral⟩ := hrest rfl
    cases v with
    | null => exact scanFrom_word rfl rfl hletter
    | bool b =>
      cases b with
      | true => exact scanFrom_word rfl rfl hletter
      | false => exact scanFrom_word rfl rfl hletter
    | integer negative n =>
      exact scanFrom_numeral (numeral?_integer negative n)
        (isNumeral_of_mem_integer negative n) hnumeral
    | decimal n =>
      exact scanFrom_numeral (numeral?_decimal h) (isNumeral_of_mem_decimal h) hnumeral
    | string s => exact h.elim
    | array items => exact h.elim
    | object fields => exact h.elim

/-! ## Many tokens -/

/-- The tokens stand one after another in the text, with blanks between them. -/
inductive Lays : List Token → List Char → Prop where
  | nil : Lays [] []
  | blank {ts : List Token} {c : Char} {cs : List Char} (hc : isBlank c = true) (h : Lays ts cs) :
    Lays ts (c :: cs)
  | token {ts : List Token} {cs : List Char} (t : Token) (hlegible : t.IsLegible)
    (hbreaks : t.isScalar = true → Breaks cs) (h : Lays ts cs) : Lays (t :: ts) (t.chars ++ cs)

theorem scanFrom_of_lays {ts : List Token} {cs : List Char} (h : Lays ts cs) :
    scanFrom acc cs = some (acc.reverse ++ ts) := by
  induction h generalizing acc with
  | nil => rw [scanFrom, List.append_nil]
  | blank hc h ih => rw [scanFrom_blank hc, ih]
  | token t hlegible hbreaks h ih =>
    rw [scanFrom_chars hlegible hbreaks, ih, List.reverse_cons, List.append_assoc,
      List.singleton_append]

theorem scan_of_lays {ts : List Token} {cs : List Char} (h : Lays ts cs) : scan cs = some ts :=
  scanFrom_of_lays h

end Token
end Json
end Filament
