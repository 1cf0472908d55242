import Filament.Proofs.Numerals

/-!
Kinds of characters.

Digits of any script, letters and blanks are told from one another by their code points.
-/

namespace Filament
namespace Text

variable {c d : Char}

/-- What is to be decided of a few characters is decided one by one and not for all characters there
are. -/
theorem forall_mem_of_all {p : Char → Prop} [DecidablePred p] {cs : List Char}
    (h : cs.all (fun c => decide (p c)) = true) : ∀ c ∈ cs, p c :=
  fun c hc => of_decide_eq_true (List.all_eq_true.mp h c hc)

theorem ne_of_kind {p : Char → Bool} (hc : p c = true) (hd : p d = false) : c ≠ d := by
  rintro rfl
  exact Bool.false_ne_true (hd.symm.trans hc)

theorem toNat_of_isAlpha (h : c.isAlpha = true) : 0x41 ≤ c.toNat ∧ c.toNat ≤ 0x7A := by
  unfold Char.isAlpha Char.isUpper Char.isLower at h
  simp only [Bool.or_eq_true, Bool.and_eq_true, decide_eq_true_iff] at h
  rcases h with ⟨hlow, hhigh⟩ | ⟨hlow, hhigh⟩
  · exact ⟨hlow, Nat.le_trans hhigh (by decide)⟩
  · exact ⟨Nat.le_trans (by decide) hlow, hhigh⟩

/-- No blank of ASCII lies behind the space. -/
theorem isBlank_eq_false (hlow : 0x20 < c.toNat) (hhigh : c.toNat < 0x7F) : isBlank c = false := by
  have hranges : ∀ r ∈ blankRanges, r.2 ≤ 0x20 ∨ 0x7F ≤ r.1 := by decide
  unfold isBlank CodeRanges.has
  rw [List.any_eq_false]
  intro r hr hin
  rw [Bool.and_eq_true, decide_eq_true_iff, decide_eq_true_iff] at hin
  rcases hranges r hr with hr | hr <;> omega

theorem isBlank_of_isDigit (h : c.isDigit = true) : isBlank c = false := by
  have := toNat_of_isDigit h
  exact isBlank_eq_false (by omega) (by omega)

theorem isDigit_of_isDigit (h : c.isDigit = true) : isDigit c = true := by
  have := toNat_of_isDigit h
  unfold isDigit
  rw [List.any_eq_true]
  refine ⟨0x30, by decide, ?_⟩
  rw [Bool.and_eq_true, decide_eq_true_iff, decide_eq_true_iff]
  omega

theorem isDigit_of_isAlpha (h : c.isAlpha = true) : isDigit c = false := by
  have hzeros : ∀ z ∈ digitZeros, z + 9 < 0x41 ∨ 0x7A < z := by decide
  have := toNat_of_isAlpha h
  unfold isDigit
  rw [List.any_eq_false]
  intro z hz hin
  rw [Bool.and_eq_true, decide_eq_true_iff, decide_eq_true_iff] at hin
  rcases hzeros z hz with hz | hz <;> omega

theorem isDigit_of_isBlank (h : isBlank c = true) : isDigit c = false := by
  have hapart : ∀ r ∈ blankRanges, ∀ z ∈ digitZeros, r.2 < z ∨ z + 9 < r.1 := by decide
  unfold isBlank CodeRanges.has at h
  obtain ⟨r, hr, hin⟩ := List.any_eq_true.mp h
  rw [Bool.and_eq_true, decide_eq_true_iff, decide_eq_true_iff] at hin
  unfold isDigit
  rw [List.any_eq_false]
  intro z hz hdigit
  rw [Bool.and_eq_true, decide_eq_true_iff, decide_eq_true_iff] at hdigit
  rcases hapart r hr z hz with hz | hz <;> omega

/-- The first digits of a text denote a number only if they begin with a digit from `0` to `9`. -/
theorem isDigit_head_of_word? {cs : List Char} {n : Nat}
    (h : word? (cs.takeWhile isDigit) = some n) :
    ∃ digit rest, cs = digit :: rest ∧ digit.isDigit = true := by
  obtain ⟨hnatural, -⟩ := Option.filter_eq_some_iff.mp h
  cases cs with
  | nil => cases hnatural
  | cons digit rest =>
    refine ⟨digit, rest, rfl, ?_⟩
    rw [List.takeWhile_cons] at hnatural
    by_cases hdigit : isDigit digit = true
    · rw [if_pos hdigit] at hnatural
      obtain ⟨ds, hvalues, -⟩ := Option.map_eq_some_iff.mp hnatural
      rw [digitValues?, List.mapM_cons] at hvalues
      obtain ⟨value, hvalue, -⟩ := Option.bind_eq_some_iff.mp hvalues
      rw [← Decimal.isAsciiDigit_eq_isDigit, Decimal.isAsciiDigit, hvalue]
      rfl
    · rw [if_neg hdigit] at hnatural
      cases hnatural

end Text
end Filament
