import Filament.Odometer

/-!
What the lines of a program say.

The odometer acts on the command that a line stands for. Here a line is read by its code, the letter
and the number, and by the value of its `E` word, and `reads` lists all that a line can be. What a
program leaves behind is then read off its lines without running it: the tool of the latest
selection (`activeTool`), and whether positions are relative (`Relative`), by the latest of the
codes that decide it.
-/

namespace Filament
namespace Gcode

/-! ## One line -/

/-- The letter and the number of the code that a line begins with. -/
def number? (line : String) : Option (Char × Nat) :=
  (split? (code line.toList)).map fun c => (c.1, c.2.1)

def HasCode (codes : List (Char × Nat)) (line : String) : Prop :=
  ∃ c ∈ codes, number? line = some c

instance (codes : List (Char × Nat)) (line : String) : Decidable (HasCode codes line) :=
  inferInstanceAs (Decidable (∃ c ∈ codes, number? line = some c))

/-- The value of the `E` word of a line with one of the codes. -/
def valueWith? (codes : List (Char × Nat)) (line : String) : Option Decimal :=
  (split? (code line.toList)).bind fun c =>
    if (c.1, c.2.1) ∈ codes then extruder? c.2.2 else none

/-- The `E` value of a move. -/
def extruded? (line : String) : Option Decimal := valueWith? [('G', 0), ('G', 1)] line

/-- The position that a line names. -/
def named? (line : String) : Option Decimal := valueWith? [('G', 92)] line

/-- The tool that a line selects. Numbers from 64 on are no tools. -/
def selected? (line : String) : Option Nat :=
  (number? line).bind fun c => if c.1 = 'T' ∧ c.2 < 64 then some c.2 else none

/-- The codes that switch between absolute and relative. -/
def modeCodes : List (Char × Nat) := [('G', 90), ('G', 91), ('M', 82), ('M', 83)]

/-- The codes of moves and of the command that names a position. -/
def moveCodes : List (Char × Nat) := [('G', 0), ('G', 1), ('G', 92)]

/-- All that a line can be: the code of a mode and nothing else, a selection, a move or a position
with a value, or nothing that concerns the extruder. -/
inductive Reads (line : String) : Option Command → Prop where
  | absoluteMode (hnumber : number? line = some ('G', 90)) (hselected : selected? line = none)
      (hextruded : extruded? line = none) (hnamed : named? line = none) :
      Reads line (some .absoluteMode)
  | relativeMode (hnumber : number? line = some ('G', 91)) (hselected : selected? line = none)
      (hextruded : extruded? line = none) (hnamed : named? line = none) :
      Reads line (some .relativeMode)
  | absoluteExtrusion (hnumber : number? line = some ('M', 82)) (hselected : selected? line = none)
      (hextruded : extruded? line = none) (hnamed : named? line = none) :
      Reads line (some .absoluteExtrusion)
  | relativeExtrusion (hnumber : number? line = some ('M', 83)) (hselected : selected? line = none)
      (hextruded : extruded? line = none) (hnamed : named? line = none) :
      Reads line (some .relativeExtrusion)
  | select (tool : Nat) (hmode : ¬HasCode modeCodes line) (hselected : selected? line = some tool)
      (hextruded : extruded? line = none) (hnamed : named? line = none) :
      Reads line (some (.select tool))
  | extrude (e : Decimal) (hmode : ¬HasCode modeCodes line) (hselected : selected? line = none)
      (hextruded : extruded? line = some e) (hnamed : named? line = none) :
      Reads line (some (.extrude e))
  | position (e : Decimal) (hmode : ¬HasCode modeCodes line) (hselected : selected? line = none)
      (hextruded : extruded? line = none) (hnamed : named? line = some e) :
      Reads line (some (.position e))
  | nothing (hmode : ¬HasCode modeCodes line) (hselected : selected? line = none)
      (hextruded : extruded? line = none) (hnamed : named? line = none) :
      Reads line none

namespace Reads

variable {line : String} {value : Option Decimal}

theorem extrude? (hmode : ¬HasCode modeCodes line) (hselected : selected? line = none)
    (hextruded : extruded? line = value) (hnamed : named? line = none) :
    Reads line (value.map .extrude) := by
  cases value with
  | none => exact .nothing hmode hselected hextruded hnamed
  | some e => exact .extrude e hmode hselected hextruded hnamed

theorem position? (hmode : ¬HasCode modeCodes line) (hselected : selected? line = none)
    (hextruded : extruded? line = none) (hnamed : named? line = value) :
    Reads line (value.map .position) := by
  cases value with
  | none => exact .nothing hmode hselected hextruded hnamed
  | some e => exact .position e hmode hselected hextruded hnamed

theorem of_split {letter : Char} {number : Nat} {params : List Char}
    (hsplit : split? (code line.toList) = some (letter, number, params)) :
    Reads line (command? letter number params) := by
  have hnumber : number? line = some (letter, number) := by simp [number?, hsplit]
  have hmode : HasCode modeCodes line ↔ (letter, number) ∈ modeCodes := by simp [HasCode, hnumber]
  have hselected : selected? line = if letter = 'T' ∧ number < 64 then some number else none := by
    simp [selected?, hnumber]
  have hextruded : extruded? line =
      if (letter, number) ∈ [('G', 0), ('G', 1)] then extruder? params else none := by
    simp [extruded?, valueWith?, hsplit]
  have hnamed : named? line =
      if (letter, number) ∈ [('G', 92)] then extruder? params else none := by
    simp [named?, valueWith?, hsplit]
  unfold command?
  split
  · exact .extrude? (mt hmode.mp (by decide)) (hselected.trans (if_neg (by decide)))
      (hextruded.trans (if_pos (by decide))) (hnamed.trans (if_neg (by decide)))
  · exact .extrude? (mt hmode.mp (by decide)) (hselected.trans (if_neg (by decide)))
      (hextruded.trans (if_pos (by decide))) (hnamed.trans (if_neg (by decide)))
  · exact .absoluteMode hnumber (hselected.trans (if_neg (by decide)))
      (hextruded.trans (if_neg (by decide))) (hnamed.trans (if_neg (by decide)))
  · exact .relativeMode hnumber (hselected.trans (if_neg (by decide)))
      (hextruded.trans (if_neg (by decide))) (hnamed.trans (if_neg (by decide)))
  · exact .position? (mt hmode.mp (by decide)) (hselected.trans (if_neg (by decide)))
      (hextruded.trans (if_neg (by decide))) (hnamed.trans (if_pos (by decide)))
  · exact .absoluteExtrusion hnumber (hselected.trans (if_neg (by decide)))
      (hextruded.trans (if_neg (by decide))) (hnamed.trans (if_neg (by decide)))
  · exact .relativeExtrusion hnumber (hselected.trans (if_neg (by decide)))
      (hextruded.trans (if_neg (by decide))) (hnamed.trans (if_neg (by decide)))
  · have hnone : ¬HasCode modeCodes line := mt hmode.mp (by simp [modeCodes])
    have hstays : extruded? line = none := hextruded.trans (if_neg (by simp))
    have hkeeps : named? line = none := hnamed.trans (if_neg (by simp))
    by_cases htool : number < maxToolCount
    · rw [if_pos htool]
      exact .select number hnone (hselected.trans (if_pos ⟨rfl, htool⟩)) hstays hkeeps
    · rw [if_neg htool]
      exact .nothing hnone (hselected.trans (if_neg fun h => htool h.2)) hstays hkeeps
  · have hother : letter ≠ 'T' ∧ (letter, number) ∉ ('G', 0) :: ('G', 1) :: ('G', 92) ::
      modeCodes := by
      simp only [modeCodes]
      grind
    simp only [List.mem_cons, not_or] at hother
    obtain ⟨hletter, hmove, hmove', hposition, hmodes⟩ := hother
    refine .nothing (mt hmode.mp ?_) (hselected.trans (if_neg fun h => hletter h.1))
      (hextruded.trans (if_neg ?_)) (hnamed.trans (if_neg ?_))
    · simpa [modeCodes] using hmodes
    · simp [hmove, hmove']
    · simp [hposition]

end Reads

theorem reads (line : String) : Reads line (ofLine? line) := by
  have hline : ofLine? line =
      (split? (code line.toList)).bind fun c => command? c.1 c.2.1 c.2.2 := rfl
  rw [hline]
  cases hsplit : split? (code line.toList) with
  | none =>
    exact .nothing (by simp [HasCode, number?, hsplit]) (by simp [selected?, number?, hsplit])
      (by simp [extruded?, valueWith?, hsplit]) (by simp [named?, valueWith?, hsplit])
  | some c => exact .of_split hsplit

section

variable {line : String} {e : Decimal}

/-- A line that names a position is no move. -/
theorem extruded?_of_named? (h : named? line = some e) : extruded? line = none := by
  have hline := reads line
  generalize ofLine? line = c at hline
  cases hline <;> simp_all

theorem ofLine?_of_selected? {tool : Nat} (h : selected? line = some tool) :
    ofLine? line = some (.select tool) := by
  have hline := reads line
  generalize ofLine? line = c at hline ⊢
  cases hline <;> simp_all

theorem ofLine?_of_extruded? (h : extruded? line = some e) : ofLine? line = some (.extrude e) := by
  have hline := reads line
  generalize ofLine? line = c at hline ⊢
  cases hline <;> simp_all

theorem ofLine?_of_named? (h : named? line = some e) : ofLine? line = some (.position e) := by
  have hline := reads line
  generalize ofLine? line = c at hline ⊢
  cases hline <;> simp_all

/-- The codes of the modes leave nothing else to a line. -/
theorem ofLine?_of_modeCode :
    (HasCode [('G', 90)] line → ofLine? line = some .absoluteMode) ∧
    (HasCode [('M', 82)] line → ofLine? line = some .absoluteExtrusion) ∧
    (HasCode [('M', 83)] line → ofLine? line = some .relativeExtrusion) := by
  have hline := reads line
  generalize ofLine? line = c at hline ⊢
  cases hline <;> simp_all [HasCode, modeCodes]

/-- A line with the code of a move moves the active tool, names its position or does nothing. -/
theorem ofLine?_of_moveCode (h : HasCode moveCodes line) :
    ofLine? line = none ∨ (∃ e, ofLine? line = some (.extrude e)) ∨
      ∃ e, ofLine? line = some (.position e) := by
  have hline := reads line
  generalize ofLine? line = c at hline ⊢
  cases hline with
  | select tool hmode hselected =>
    obtain ⟨c, hnumber, hletter⟩ := Option.bind_eq_some_iff.mp hselected
    obtain ⟨code, hcode, hcodeNumber⟩ := h
    obtain rfl : c = code := Option.some.inj (hnumber.symm.trans hcodeNumber)
    have hnotTool : c.1 ≠ 'T' := by
      intro hletter
      simp only [moveCodes, List.mem_cons, List.not_mem_nil, or_false] at hcode
      rcases hcode with rfl | rfl | rfl <;> cases hletter
    rw [if_neg fun h => hnotTool h.1] at hletter
    cases hletter
  | _ => simp_all [HasCode, moveCodes]

end

/-! ## A program -/

/-- The latest of the codes that a program has. -/
def latest? (codes : List (Char × Nat)) (lines : List String) : Option (Char × Nat) :=
  ((lines.filterMap number?).filter (· ∈ codes)).getLast?

/-- Of the codes that switch something on or off, the latest one switched it on. -/
def SwitchedOn (on off : List (Char × Nat)) (lines : List String) : Prop :=
  ∃ c ∈ on, latest? (on ++ off) lines = some c

instance (on off : List (Char × Nat)) (lines : List String) : Decidable (SwitchedOn on off lines) :=
  inferInstanceAs (Decidable (∃ c ∈ on, latest? (on ++ off) lines = some c))

/-- An `E` value after these lines is a length and not a position. -/
def Relative (g90Influences : Bool) (lines : List String) : Prop :=
  if g90Influences then SwitchedOn [('G', 91), ('M', 83)] [('G', 90), ('M', 82)] lines
  else SwitchedOn [('G', 91)] [('G', 90)] lines ∨ SwitchedOn [('M', 83)] [('M', 82)] lines

instance (g90Influences : Bool) (lines : List String) :
    Decidable (Relative g90Influences lines) := by
  unfold Relative
  infer_instance

/-- The tool selected last, the first one if none was. -/
def activeTool (lines : List String) : Nat := (lines.filterMap selected?).getLast?.getD 0

theorem latest?_snoc (codes : List (Char × Nat)) (lines : List String) (line : String) :
    latest? codes (lines ++ [line]) =
      ((number? line).filter (· ∈ codes)).or (latest? codes lines) := by
  unfold latest?
  rw [List.filterMap_append, List.filter_append, List.getLast?_append]
  cases hnumber : number? line with
  | none => simp [hnumber]
  | some c =>
    by_cases hc : c ∈ codes
    · simp [hnumber, hc, Option.filter]
    · simp [hnumber, hc, Option.filter]

theorem switchedOn_snoc {on off : List (Char × Nat)} {lines : List String} {line : String} :
    SwitchedOn on off (lines ++ [line]) ↔
      HasCode on line ∨ ¬HasCode off line ∧ SwitchedOn on off lines := by
  unfold SwitchedOn HasCode
  rw [latest?_snoc]
  cases hnumber : number? line with
  | none => simp
  | some c =>
    by_cases hon : c ∈ on
    · simp [Option.filter, hon, -Prod.exists]
    · by_cases hoff : c ∈ off
      · simp [Option.filter, hon, hoff, -Prod.exists, -Prod.forall]
      · simp [Option.filter, hon, hoff, -Prod.exists]

theorem activeTool_snoc (lines : List String) (line : String) :
    activeTool (lines ++ [line]) = (selected? line).getD (activeTool lines) := by
  unfold activeTool
  cases hselected : selected? line with
  | none => simp [hselected]
  | some tool => simp [hselected]

end Gcode
end Filament
