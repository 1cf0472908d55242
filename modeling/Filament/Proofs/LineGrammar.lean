import Filament.Proofs.Characters
import Filament.Proofs.Odometer

/-!
Lines by their grammar.

A line is put together from a code, parameter words and a comment (`CodeLine`). A word is a letter
and a decimal, and no blank is needed between it and its neighbours, so that `g01x1e-.5f3` has three
words. The letter of a word stops the number before it, and no letter but `E` is looked for, hence
the parameters are read word by word (`extruder?_word`, `extruder?_words`). So a line acts by its
code and by its first `E` value alone, and a line that does not begin with a code does nothing
(`feedLine_by_grammar`).
-/

namespace Filament

open Text
  (Stops stops_nil stops_cons stops_append stops_append_left stops_of_forall takeWhile_append
  dropWhile_append)

/-! ## Numbers -/

namespace Decimal

open Text (digitValues?_of_isDigit)

theorem unsigned?_of_digits (negative : Bool) {whole : List Char}
    (hwhole : ∀ c ∈ whole, c.isDigit = true) (hne : whole ≠ []) :
    unsigned? negative whole =
      some { negative, digits := Nat.ofDigitChars 10 whole 0, exponent := 0 } := by
  have hascii : ∀ c ∈ whole, isAsciiDigit c = true :=
    fun c hc => isAsciiDigit_of_isDigit (hwhole c hc)
  have htake := takeWhile_append hascii stops_nil
  have hdrop := dropWhile_append hascii stops_nil
  rw [List.append_nil] at htake hdrop
  unfold unsigned?
  dsimp only
  rw [htake, hdrop, digitValues?_of_isDigit hwhole, exponent?_nil,
    List.isEmpty_eq_false_iff.mpr hne]
  have hvalue := ofDigits_map negative whole [] 0
  rw [List.append_nil] at hvalue
  exact congrArg some hvalue

theorem unsigned?_of_point (negative : Bool) {whole fraction : List Char}
    (hwhole : ∀ c ∈ whole, c.isDigit = true) (hfraction : ∀ c ∈ fraction, c.isDigit = true)
    (hne : whole ++ fraction ≠ []) :
    unsigned? negative (whole ++ '.' :: fraction) =
      some { negative, digits := Nat.ofDigitChars 10 (whole ++ fraction) 0,
             exponent := -fraction.length } := by
  have hascii : ∀ cs : List Char, (∀ c ∈ cs, c.isDigit = true) → ∀ c ∈ cs, isAsciiDigit c = true :=
    fun cs hcs c hc => isAsciiDigit_of_isDigit (hcs c hc)
  have htake := takeWhile_append (hascii fraction hfraction) stops_nil
  have hdrop := dropWhile_append (hascii fraction hfraction) stops_nil
  rw [List.append_nil] at htake hdrop
  have hempty : (whole.isEmpty && fraction.isEmpty) = false := by
    simpa [List.append_eq_nil_iff] using hne
  unfold unsigned?
  dsimp only
  rw [takeWhile_append (hascii whole hwhole) (stops_cons rfl),
    dropWhile_append (hascii whole hwhole) (stops_cons rfl)]
  simp only [htake, hdrop, digitValues?_of_isDigit hwhole, digitValues?_of_isDigit hfraction,
    exponent?_nil, hempty]
  have hvalue := ofDigits_map negative whole fraction 0
  rw [Int.zero_sub] at hvalue
  exact congrArg some hvalue

theorem ofChars?_of_unsigned? {cs : List Char} {d : Decimal} (h : unsigned? false cs = some d) :
    ofChars? cs = some d := by
  unfold ofChars?
  split
  · cases h
  · cases h
  · exact h

end Decimal

namespace Gcode

/-! ## The grammar -/

abbrev Blanks := { cs : List Char // ∀ c ∈ cs, Text.isBlank c = true }

abbrev Digits := { cs : List Char // ∀ c ∈ cs, c.isDigit = true }

/-- Digits, and more of them after a point if there is one. -/
structure Numeral where
  whole : Digits
  fraction : Option Digits
  ne_nil : whole.1 ++ (fraction.elim [] Subtype.val) ≠ []

namespace Numeral

/-- The digits after the point. -/
def places (n : Numeral) : List Char := n.fraction.elim [] Subtype.val

def chars (n : Numeral) : List Char :=
  n.whole.1 ++ n.fraction.elim [] fun ds => '.' :: ds.1

def value (n : Numeral) (negative : Bool) : Decimal where
  negative := negative
  digits := Nat.ofDigitChars 10 (n.whole.1 ++ n.places) 0
  exponent := -n.places.length

end Numeral

inductive Sign where
  | plus
  | minus
deriving DecidableEq, Repr

def Sign.char : Sign → Char
  | .plus => '+'
  | .minus => '-'

/-- A parameter: a letter and a decimal. -/
structure Word where
  before : Blanks
  letter : Char
  between : Blanks
  sign : Option Sign
  numeral : Numeral
  isAlpha : letter.isAlpha = true

namespace Word

def chars (w : Word) : List Char :=
  w.before.1 ++ w.letter :: (w.between.1 ++ (w.sign.toList.map Sign.char ++ w.numeral.chars))

/-- The extruder position that a word gives. A number with a plus sign is none. -/
def value? (w : Word) : Option Decimal :=
  if (w.letter = 'E' ∨ w.letter = 'e') ∧ w.sign ≠ some .plus then
    some (w.numeral.value (w.sign = some .minus))
  else none

end Word

def codeLetters : List Char := ['G', 'M', 'T', 'g', 'm', 't']

/-- A line that begins with a code. -/
structure CodeLine where
  before : Blanks
  letter : Char
  digits : Digits
  words : List Word
  after : Blanks
  comment : Option (List Char)
  letter_mem : letter ∈ codeLetters
  digits_ne_nil : digits.1 ≠ []
  number_le : Nat.ofDigitChars 10 digits.1 0 ≤ Text.maxWord

namespace CodeLine

/-- The code and the parameters, up to the blanks at the end. -/
def codeChars (l : CodeLine) : List Char := l.letter :: (l.digits.1 ++ l.words.flatMap Word.chars)

def text (l : CodeLine) : String :=
  String.ofList (l.before.1 ++ l.codeChars ++ l.after.1 ++ l.comment.elim [] fun cs => ';' :: cs)

def code (l : CodeLine) : Char × Nat := (l.letter.toUpper, Nat.ofDigitChars 10 l.digits.1 0)

/-- The value of the first `E` word. -/
def value? (l : CodeLine) : Option Decimal := l.words.findSome? Word.value?

/-- Three words without a blank between them, and an `E` word in the comment. -/
def compact : CodeLine where
  before := ⟨[], nofun⟩
  letter := 'g'
  digits := ⟨['0', '1'], Text.forall_mem_of_all (by decide)⟩
  words := [
    { before := ⟨[], nofun⟩, letter := 'x', between := ⟨[], nofun⟩, sign := none
      numeral := ⟨⟨['1'], Text.forall_mem_of_all (by decide)⟩, none, by decide⟩
      isAlpha := by decide },
    { before := ⟨[], nofun⟩, letter := 'e', between := ⟨[], nofun⟩, sign := some .minus
      numeral := ⟨⟨[], nofun⟩, some ⟨['5'], Text.forall_mem_of_all (by decide)⟩, by decide⟩
      isAlpha := by decide },
    { before := ⟨[], nofun⟩, letter := 'f', between := ⟨[], nofun⟩, sign := none
      numeral := ⟨⟨['3'], Text.forall_mem_of_all (by decide)⟩, none, by decide⟩
      isAlpha := by decide }]
  after := ⟨[], nofun⟩
  comment := some ['E', '9']
  letter_mem := by decide
  digits_ne_nil := by decide
  number_le := by decide

example : compact.text = "g01x1e-.5f3;E9" := by decide

end CodeLine

/-- A code letter with a digit right behind it. -/
def StartsCode : List Char → Prop
  | letter :: digit :: _ => letter ∈ codeLetters ∧ digit.isDigit = true
  | _ => False

instance : DecidablePred StartsCode
  | [] | [_] => isFalse id
  | letter :: digit :: _ =>
    inferInstanceAs (Decidable (letter ∈ codeLetters ∧ digit.isDigit = true))

/-! ## Numbers -/

variable {rest : List Char}

/-- Nothing stands here that a number could go on with. -/
def Parted (cs : List Char) : Prop := ∀ c ∈ cs.head?, Text.isBlank c = true ∨ c.isAlpha = true

theorem Parted.stops (h : Parted rest) : Stops Text.isDigit rest := by
  cases rest with
  | nil => exact stops_nil
  | cons c rest =>
    rcases h c rfl with hblank | halpha
    · exact stops_cons (Text.isDigit_of_isBlank hblank)
    · exact stops_cons (Text.isDigit_of_isAlpha halpha)

theorem not_parted_point (cs : List Char) : ¬Parted ('.' :: cs) := by
  intro h
  rcases h '.' rfl with hblank | halpha
  · exact absurd hblank (by decide)
  · exact absurd halpha (by decide)

theorem parted_nil : Parted [] := nofun

/-- Digits that no point follows. -/
theorem numberWord?_of_digits (sign : List Char) {whole : List Char}
    (hwhole : ∀ c ∈ whole, c.isDigit = true)
    (hne : whole ≠ []) (hrest : Parted rest) :
    numberWord? sign (whole ++ rest) = some (sign ++ whole) := by
  have hdigits : ∀ c ∈ whole, Text.isDigit c = true :=
    fun c hc => Text.isDigit_of_isDigit (hwhole c hc)
  unfold numberWord?
  dsimp only
  rw [takeWhile_append hdigits hrest.stops, dropWhile_append hdigits hrest.stops,
    List.isEmpty_eq_false_iff.mpr hne]
  split
  · exact absurd hrest (not_parted_point _)
  · rfl

theorem numberWord?_of_point (sign : List Char) {whole fraction : List Char}
    (hwhole : ∀ c ∈ whole, c.isDigit = true) (hfraction : ∀ c ∈ fraction, c.isDigit = true)
    (hrest : Parted rest) :
    numberWord? sign (whole ++ '.' :: (fraction ++ rest)) =
      if !fraction.isEmpty then some (sign ++ whole ++ '.' :: fraction)
      else if !whole.isEmpty then some (sign ++ whole) else none := by
  have hdigits : ∀ cs : List Char, (∀ c ∈ cs, c.isDigit = true) → ∀ c ∈ cs, Text.isDigit c = true :=
    fun cs hcs c hc => Text.isDigit_of_isDigit (hcs c hc)
  have hpoint : Stops Text.isDigit ('.' :: (fraction ++ rest)) := stops_cons (by decide)
  unfold numberWord?
  dsimp only
  rw [takeWhile_append (hdigits whole hwhole) hpoint,
    dropWhile_append (hdigits whole hwhole) hpoint]
  simp only [takeWhile_append (hdigits fraction hfraction) hrest.stops]

/-- The characters of a number with its sign. -/
def isNumeric (c : Char) : Bool := c.isDigit || c ∈ ['.', '-', '+']

theorem isBlank_of_isNumeric {c : Char} (h : isNumeric c = true) : Text.isBlank c = false := by
  unfold isNumeric at h
  rw [Bool.or_eq_true, decide_eq_true_iff] at h
  rcases h with hdigit | hother
  · exact Text.isBlank_of_isDigit hdigit
  · have hothers : ∀ c ∈ ['.', '-', '+'], Text.isBlank c = false :=
      Text.forall_mem_of_all (by decide)
    exact hothers c hother

theorem isNumeric_of_isDigit {c : Char} (h : c.isDigit = true) : isNumeric c = true := by
  rw [isNumeric, h, Bool.true_or]

namespace Numeral

theorem chars_ne_nil (n : Numeral) : n.chars ≠ [] := by
  have hne := n.ne_nil
  unfold chars
  cases hfraction : n.fraction with
  | none => simpa [hfraction] using hne
  | some fraction => simp

theorem isNumeric_of_mem (n : Numeral) : ∀ c ∈ n.chars, isNumeric c = true := by
  intro c hc
  unfold chars at hc
  rcases List.mem_append.mp hc with hwhole | hpoint
  · exact isNumeric_of_isDigit (n.whole.2 c hwhole)
  · cases hfraction : n.fraction with
    | none =>
      rw [hfraction] at hpoint
      cases hpoint
    | some fraction =>
      rw [hfraction] at hpoint
      rcases List.mem_cons.mp hpoint with rfl | hfraction
      · rfl
      · exact isNumeric_of_isDigit (fraction.2 c hfraction)

/-- A numeral is read up to its last digit, so a point at its end is left. -/
theorem exists_read (n : Numeral) (sign : List Char) (hrest : Parted rest) :
    ∃ cs, numberWord? sign (n.chars ++ rest) = some (sign ++ cs) ∧
      ∀ negative, Decimal.unsigned? negative cs = some (n.value negative) := by
  obtain ⟨⟨whole, hwhole⟩, fraction, hne⟩ := n
  cases fraction with
  | none =>
    have hne : whole ≠ [] := by simpa using hne
    refine ⟨whole, ?_, fun negative => ?_⟩
    · simpa [chars] using numberWord?_of_digits sign hwhole hne hrest
    · simpa [value, places] using Decimal.unsigned?_of_digits negative hwhole hne
  | some fraction =>
    obtain ⟨fraction, hfraction⟩ := fraction
    have hword := numberWord?_of_point sign hwhole hfraction hrest
    have hchars : whole ++ '.' :: (fraction ++ rest) = whole ++ '.' :: fraction ++ rest := by simp
    rw [hchars] at hword
    cases fraction with
    | nil =>
      have hne : whole ≠ [] := by simpa using hne
      refine ⟨whole, hword.trans (by simp [hne]), fun negative => ?_⟩
      simpa [value, places] using Decimal.unsigned?_of_digits negative hwhole hne
    | cons c cs =>
      refine ⟨whole ++ '.' :: c :: cs, hword.trans (by simp), fun negative => ?_⟩
      exact Decimal.unsigned?_of_point negative hwhole hfraction hne

end Numeral

/-! ## Words -/

namespace Word

variable (w : Word)

/-- The sign and the digits. -/
def number : List Char := w.sign.toList.map Sign.char ++ w.numeral.chars

theorem isNumeric_of_mem : ∀ c ∈ w.number, isNumeric c = true := by
  intro c hc
  rcases List.mem_append.mp hc with hsign | hnumeral
  · obtain ⟨sign, -, rfl⟩ := List.mem_map.mp hsign
    cases sign <;> rfl
  · exact w.numeral.isNumeric_of_mem c hnumeral

theorem number_ne_nil : w.number ≠ [] :=
  List.append_ne_nil_of_right_ne_nil _ w.numeral.chars_ne_nil

theorem stops_number (rest : List Char) : Stops Text.isBlank (w.number ++ rest) :=
  stops_append_left w.number_ne_nil
    (stops_of_forall fun c hc => isBlank_of_isNumeric (w.isNumeric_of_mem c hc))

theorem chars_eq : w.chars = w.before.1 ++ w.letter :: (w.between.1 ++ w.number) := rfl

/-- A word ends with a digit or a point. -/
theorem stops_reverse : Stops Text.isBlank w.chars.reverse := by
  have hnumber : Stops Text.isBlank w.number.reverse :=
    stops_of_forall fun c hc => isBlank_of_isNumeric (w.isNumeric_of_mem c (List.mem_reverse.mp hc))
  rw [w.chars_eq, ← List.cons_append, ← List.append_assoc, List.reverse_append]
  exact stops_append_left (mt List.reverse_eq_nil_iff.mp w.number_ne_nil) hnumber

theorem ne_semicolon_of_mem {c : Char} (hc : c ∈ w.chars) : c ≠ ';' := by
  rw [w.chars_eq, List.mem_append, List.mem_cons, List.mem_append] at hc
  rcases hc with hbefore | rfl | hbetween | hnumber
  · exact Text.ne_of_kind (w.before.2 c hbefore) (by decide)
  · exact Text.ne_of_kind w.isAlpha (by decide)
  · exact Text.ne_of_kind (w.between.2 c hbetween) (by decide)
  · exact Text.ne_of_kind (w.isNumeric_of_mem c hnumber) (by decide)

end Word

theorem not_e_of_kind {p : Char → Bool} {c : Char} (hc : p c = true) (hupper : p 'E' = false)
    (hlower : p 'e' = false) : ¬(c = 'E' ∨ c = 'e') :=
  not_or.mpr ⟨Text.ne_of_kind hc hupper, Text.ne_of_kind hc hlower⟩

/-- Characters that are no `E` are passed over. -/
theorem extruderWord?_skip {cs : List Char} (h : ∀ c ∈ cs, ¬(c = 'E' ∨ c = 'e')) :
    extruderWord? (cs ++ rest) = extruderWord? rest := by
  induction cs with
  | nil => rfl
  | cons c cs ih =>
    rw [List.forall_mem_cons] at h
    rw [List.cons_append, extruderWord?, if_neg h.1, ih h.2]

/-- The number of a word is read after an `E`, with a minus sign but not with a plus sign. -/
theorem extruderNumber?_of_ne_plus {w : Word} (hsign : w.sign ≠ some .plus) (hrest : Parted rest) :
    ∃ cs, extruderNumber? (w.between.1 ++ (w.number ++ rest)) = some cs ∧
      Decimal.ofChars? cs = some (w.numeral.value (w.sign = some .minus)) := by
  unfold extruderNumber?
  rw [dropWhile_append w.between.2 (w.stops_number rest)]
  unfold Word.number
  cases hsome : w.sign with
  | none =>
    obtain ⟨cs, hword, hread⟩ := w.numeral.exists_read [] hrest
    refine ⟨cs, ?_, Decimal.ofChars?_of_unsigned? (hread false)⟩
    rw [Option.toList_none, List.map_nil, List.nil_append]
    split
    · rename_i heq
      rw [heq] at hword
      cases hword
    · exact hword
  | some sign =>
    cases sign with
    | plus => exact absurd hsome hsign
    | minus =>
      obtain ⟨cs, hword, hread⟩ := w.numeral.exists_read ['-'] hrest
      exact ⟨'-' :: cs, hword, hread true⟩

theorem extruderNumber?_of_plus {w : Word} (hsign : w.sign = some .plus) :
    extruderNumber? (w.between.1 ++ (w.number ++ rest)) = none := by
  unfold extruderNumber?
  rw [dropWhile_append w.between.2 (w.stops_number rest)]
  unfold Word.number
  rw [hsign]
  rfl

theorem extruder?_word (w : Word) (hrest : Parted rest) :
    extruder? (w.chars ++ rest) = w.value?.or (extruder? rest) := by
  have hbefore : ∀ c ∈ w.before.1, ¬(c = 'E' ∨ c = 'e') :=
    fun c hc => not_e_of_kind (w.before.2 c hc) (by decide) (by decide)
  have hnumber : ∀ c ∈ w.between.1 ++ w.number, ¬(c = 'E' ∨ c = 'e') := by
    intro c hc
    rcases List.mem_append.mp hc with hblank | hnumber
    · exact not_e_of_kind (w.between.2 c hblank) (by decide) (by decide)
    · exact not_e_of_kind (w.isNumeric_of_mem c hnumber) (by decide) (by decide)
  have hchars : w.chars ++ rest = w.before.1 ++ w.letter ::
      (w.between.1 ++ (w.number ++ rest)) := by
    simp [w.chars_eq]
  have hafter : extruderWord? (w.between.1 ++ (w.number ++ rest)) = extruderWord? rest := by
    rw [← List.append_assoc, extruderWord?_skip hnumber]
  unfold extruder? Word.value?
  rw [hchars, extruderWord?_skip hbefore, extruderWord?, hafter]
  by_cases hletter : w.letter = 'E' ∨ w.letter = 'e'
  · rw [if_pos hletter]
    by_cases hsign : w.sign = some .plus
    · rw [extruderNumber?_of_plus hsign, if_neg fun h => h.2 hsign]
      rfl
    · obtain ⟨cs, hread, hvalue⟩ := extruderNumber?_of_ne_plus hsign hrest
      rw [hread, if_pos ⟨hletter, hsign⟩]
      exact hvalue
  · rw [if_neg hletter, if_neg fun h => hletter h.1]
    rfl

theorem parted_word (w : Word) : Parted (w.chars ++ rest) := by
  rw [w.chars_eq]
  obtain ⟨before, hbefore⟩ := w.before
  cases before with
  | nil =>
    intro c hc
    cases hc
    exact Or.inr w.isAlpha
  | cons c before =>
    intro d hd
    cases hd
    exact Or.inl (hbefore c List.mem_cons_self)

theorem parted_words (words : List Word) : Parted (words.flatMap Word.chars) := by
  cases words with
  | nil => exact parted_nil
  | cons w words =>
    rw [List.flatMap_cons]
    exact parted_word w

/-- Of the parameters, the first `E` word that has a value counts. -/
theorem extruder?_words (words : List Word) :
    extruder? (words.flatMap Word.chars) = words.findSome? Word.value? := by
  induction words with
  | nil => rfl
  | cons w words ih =>
    rw [List.flatMap_cons, extruder?_word w (parted_words words), ih, List.findSome?_cons]
    cases w.value? <;> rfl

/-! ## Lines -/

/-- A letter is one of the code letters if it is one in upper case. -/
theorem mem_codeLetters {c : Char} (h : c.toUpper = 'G' ∨ c.toUpper = 'M' ∨ c.toUpper = 'T') :
    c ∈ codeLetters := by
  by_cases hsmall : 'a'.val ≤ c.val ∧ c.val ≤ 'z'.val
  · have hletters : ∀ n < 0x7B, (Char.ofNat n).toUpper = 'G' ∨ (Char.ofNat n).toUpper = 'M' ∨
        (Char.ofNat n).toUpper = 'T' → Char.ofNat n ∈ codeLetters := by decide +kernel
    have hlast : c.toNat < 0x7B := Nat.lt_succ_of_le hsmall.2
    rw [← Char.ofNat_toNat c] at h ⊢
    exact hletters c.toNat hlast h
  · have hsame : c.toUpper = c := dif_neg hsmall
    rw [hsame] at h
    rcases h with rfl | rfl | rfl <;> decide

theorem startsCode_of_split? {cs : List Char} {parts : Char × Nat × List Char}
    (h : split? cs = some parts) : StartsCode cs := by
  cases cs with
  | nil => cases h
  | cons letter cs =>
    unfold split? at h
    dsimp only at h
    split at h
    · rename_i hletter
      obtain ⟨number, hnumber, -⟩ := Option.map_eq_some_iff.mp h
      obtain ⟨digit, rest, rfl, hdigit⟩ := Text.isDigit_head_of_word? hnumber
      exact ⟨mem_codeLetters hletter, hdigit⟩
    · cases h

namespace CodeLine

variable (l : CodeLine)

theorem split?_codeChars :
    split? l.codeChars = some (l.code.1, l.code.2, l.words.flatMap Word.chars) := by
  have hletters : ∀ c ∈ codeLetters, c.toUpper = 'G' ∨ c.toUpper = 'M' ∨ c.toUpper = 'T' :=
    Text.forall_mem_of_all (by decide)
  have hdigits : ∀ c ∈ l.digits.1, Text.isDigit c = true :=
    fun c hc => Text.isDigit_of_isDigit (l.digits.2 c hc)
  have hrest := (parted_words l.words).stops
  unfold codeChars split?
  dsimp only
  rw [if_pos (hletters l.letter l.letter_mem), takeWhile_append hdigits hrest,
    dropWhile_append hdigits hrest, Text.word?_of_isDigit l.digits.2 l.digits_ne_nil l.number_le]
  rfl

theorem ne_semicolon_of_mem {c : Char} (hc : c ∈ l.codeChars) : c ≠ ';' := by
  have hletters : ∀ c ∈ codeLetters, c ≠ ';' := Text.forall_mem_of_all (by decide)
  rcases List.mem_cons.mp hc with rfl | hc
  · exact hletters l.letter l.letter_mem
  rcases List.mem_append.mp hc with hdigit | hword
  · exact Text.ne_of_kind (l.digits.2 c hdigit) (by decide)
  obtain ⟨w, -, hc⟩ := List.mem_flatMap.mp hword
  exact w.ne_semicolon_of_mem hc

/-- The code and its parameters end with a digit or a point. -/
theorem stops_reverse : Stops Text.isBlank l.codeChars.reverse := by
  have hwords : ∀ words : List Word, Stops Text.isBlank (words.flatMap Word.chars).reverse := by
    intro words
    induction words with
    | nil => exact stops_nil
    | cons w words ih =>
      rw [List.flatMap_cons, List.reverse_append]
      exact stops_append ih w.stops_reverse
  have hdigits : Stops Text.isBlank (l.digits.1.reverse ++ [l.letter]) :=
    stops_append_left (mt List.reverse_eq_nil_iff.mp l.digits_ne_nil)
      (stops_of_forall fun c hc => Text.isBlank_of_isDigit (l.digits.2 c (List.mem_reverse.mp hc)))
  unfold codeChars
  rw [List.reverse_cons, List.reverse_append, List.append_assoc]
  exact stops_append (hwords l.words) hdigits

/-- What is left of a line without its comment and the blanks around it. -/
theorem code_text : Gcode.code l.text.toList = l.codeChars := by
  have hletters : ∀ c ∈ codeLetters, Text.isBlank c = false := Text.forall_mem_of_all (by decide)
  have hkept : ∀ c ∈ l.before.1 ++ l.codeChars ++ l.after.1, (c != ';') = true := by
    intro c hc
    rw [bne_iff_ne]
    rcases List.mem_append.mp hc with hc | hafter
    · rcases List.mem_append.mp hc with hbefore | hcode
      · exact Text.ne_of_kind (l.before.2 c hbefore) (by decide)
      · exact l.ne_semicolon_of_mem hcode
    · exact Text.ne_of_kind (l.after.2 c hafter) (by decide)
  have hcomment : Stops (· != ';') (l.comment.elim [] fun cs => ';' :: cs) := by
    cases l.comment with
    | none => exact stops_nil
    | some cs => exact stops_cons rfl
  unfold Gcode.code text
  rw [String.toList_ofList, takeWhile_append hkept hcomment]
  exact Text.trimChars_append l.before.2 l.after.2 (List.cons_ne_nil _ _)
    (stops_cons (hletters l.letter l.letter_mem)) l.stops_reverse

end CodeLine

end Gcode

namespace Odometer

open Gcode

variable {α : Type} [Scalar α]

/-- What a code does, with the value of the first `E` word behind it. -/
def act (o : Odometer α) (code : Char × Nat) (value? : Option Decimal) : Odometer α :=
  match code, value? with
  | ('G', 0), some e => o.modifyActive fun x => x.feed o.absoluteExtrusion (Scalar.ofDecimal e)
  | ('G', 1), some e => o.modifyActive fun x => x.feed o.absoluteExtrusion (Scalar.ofDecimal e)
  | ('G', 92), some e => o.modifyActive fun x => { x with position := Scalar.ofDecimal e }
  | ('G', 90), _ =>
    { o with relativeMode := false, relativeExtrusion := !o.g90Influences && o.relativeExtrusion }
  | ('G', 91), _ =>
    { o with relativeMode := true, relativeExtrusion := o.g90Influences || o.relativeExtrusion }
  | ('M', 82), _ => { o with relativeExtrusion := false }
  | ('M', 83), _ => { o with relativeExtrusion := true }
  | ('T', tool), _ => if tool < 64 then o.select tool else o
  | _, _ => o

theorem step_command? (o : Odometer α) (letter : Char) (number : Nat) (params : List Char) :
    ((command? letter number params).map o.step).getD o =
      o.act (letter, number) (extruder? params) := by
  unfold command?
  split
  · cases extruder? params <;> rfl
  · cases extruder? params <;> rfl
  · cases hsetting : o.g90Influences <;> simp [act, step, hsetting]
  · cases hsetting : o.g90Influences <;> simp [act, step, hsetting]
  · cases extruder? params <;> rfl
  · rfl
  · rfl
  · by_cases htool : number < maxToolCount
    · rw [if_pos htool]
      exact (if_pos htool).symm
    · rw [if_neg htool]
      exact (if_neg htool).symm
  · unfold act
    split <;> simp_all

/-- A line with a code acts by the code and by the value of its first `E` word, and by nothing else:
other words, blanks and the comment change nothing. A line does nothing if its text between the
blanks, without the comment, does not begin with a code. -/
theorem feedLine_by_grammar (o : Odometer α) :
    (∀ l : CodeLine, o.feedLine l.text = o.act l.code l.value?) ∧
    (∀ line : String, ¬StartsCode (Gcode.code line.toList) → o.feedLine line = o) := by
  refine ⟨fun l => ?_, fun line hline => ?_⟩
  · have hsplit : ofLine? l.text = command? l.code.1 l.code.2 (l.words.flatMap Word.chars) := by
      rw [ofLine?, l.code_text, l.split?_codeChars]
      rfl
    rw [feedLine_eq, hsplit, step_command?, extruder?_words]
    rfl
  · have hnone : ofLine? line = none := by
      unfold ofLine?
      cases hsplit : split? (Gcode.code line.toList) with
      | none => rfl
      | some parts => exact absurd (startsCode_of_split? hsplit) hline
    rw [feedLine_eq, hnone]
    rfl

theorem feedLine_by_grammar_compact :
    (start true : Odometer Float).feedLine CodeLine.compact.text =
      (start true).act ('G', 1) (some { negative := true, digits := 5, exponent := -1 }) ∧
    ¬StartsCode (Gcode.code " G 1 E5".toList) ∧ (start true : Odometer Float).feedLine " G 1 E5" =
      start true :=
  ⟨(feedLine_by_grammar (start true)).1 CodeLine.compact, by decide,
    (feedLine_by_grammar (start true)).2 " G 1 E5" (by decide)⟩

end Odometer
end Filament
