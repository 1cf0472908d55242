import Filament.Proofs.LineGrammar
import Filament.Proofs.Travel

/-!
Histories by the grammar of the lines.

The history of a program is read off its lines by the reader of the odometer. Of a line of the
grammar that reader takes the code and the value of the first `E` word (`number?_text`,
`valueWith?_text`), and of a line that does not begin with a code it takes nothing (`says_nothing`).
So the history of a program is that of its codes and values (`history_by_grammar`).
-/

namespace Filament
namespace Gcode

/-- A line without a code is no part of a history. -/
theorem says_nothing {line : String} (h : ¬StartsCode (code line.toList)) :
    number? line = none ∧ selected? line = none ∧ extruded? line = none ∧ named? line = none := by
  have hsplit : split? (code line.toList) = none := by
    cases hsplit : split? (code line.toList) with
    | none => rfl
    | some parts => exact absurd (startsCode_of_split? hsplit) h
  simp [number?, selected?, extruded?, named?, valueWith?, hsplit]

namespace CodeLine

variable (l : CodeLine)

/-- The value of a move. -/
def extruded? : Option Decimal :=
  if [('G', 0), ('G', 1)].contains l.code then l.value? else none

/-- The position that the line names. -/
def named? : Option Decimal := if [('G', 92)].contains l.code then l.value? else none

/-- The tool that the line selects. -/
def selected? : Option Nat := if l.code.1 = 'T' ∧ l.code.2 < 64 then some l.code.2 else none

theorem split?_text :
    split? (Gcode.code l.text.toList) = some (l.code.1, l.code.2, l.words.flatMap Word.chars) := by
  rw [l.code_text, l.split?_codeChars]

theorem number?_text : number? l.text = some l.code := by
  unfold number?
  rw [l.split?_text]
  rfl

theorem valueWith?_text (codes : List (Char × Nat)) :
    valueWith? codes l.text = if codes.contains l.code then l.value? else none := by
  unfold valueWith?
  rw [l.split?_text, Option.bind_some, extruder?_words]
  simp only [List.contains_iff_mem]
  rfl

theorem extruded?_text : Gcode.extruded? l.text = l.extruded? := l.valueWith?_text _

theorem named?_text : Gcode.named? l.text = l.named? := l.valueWith?_text _

theorem selected?_text : Gcode.selected? l.text = l.selected? := by
  unfold Gcode.selected?
  rw [l.number?_text]
  rfl

end CodeLine

/-! ## Programs -/

/-- The tool that was selected last, the first one if none was. -/
def toolAfter (ls : List CodeLine) : Nat := (ls.filterMap CodeLine.selected?).getLast?.getD 0

/-- Of the codes that switch something on or off, the latest one switched it on. -/
def OnAfter (on off : List (Char × Nat)) (ls : List CodeLine) : Prop :=
  ∃ c ∈ on, ((ls.map CodeLine.code).filter (on ++ off).contains).getLast? = some c

/-- Values are lengths after these lines. -/
def LengthsAfter (g90Influences : Bool) (ls : List CodeLine) : Prop :=
  if g90Influences then OnAfter [('G', 91), ('M', 83)] [('G', 90), ('M', 82)] ls
  else OnAfter [('G', 91)] [('G', 90)] ls ∨ OnAfter [('M', 83)] [('M', 82)] ls

variable (ls : List CodeLine)

theorem activeTool_texts : activeTool (ls.map CodeLine.text) = toolAfter ls := by
  unfold activeTool toolAfter
  rw [List.filterMap_map]
  congr 3
  exact funext CodeLine.selected?_text

theorem latest?_texts (codes : List (Char × Nat)) :
    latest? codes (ls.map CodeLine.text) =
      ((ls.map CodeLine.code).filter codes.contains).getLast? := by
  have hnumber : number? ∘ CodeLine.text = some ∘ CodeLine.code := funext CodeLine.number?_text
  have hcontains : codes.contains = fun c => decide (c ∈ codes) :=
    funext fun c => List.contains_eq_mem c codes
  unfold latest?
  rw [List.filterMap_map, hnumber, List.filterMap_eq_map, hcontains]

theorem relative_texts (g90Influences : Bool) :
    Relative g90Influences (ls.map CodeLine.text) ↔ LengthsAfter g90Influences ls := by
  unfold Relative LengthsAfter SwitchedOn OnAfter
  simp only [latest?_texts]

theorem bind_texts {β : Type} (read : String → Option β) (k : Nat) :
    (ls.map CodeLine.text)[k]?.bind read = ls[k]?.bind fun l => read l.text := by
  rw [List.getElem?_map, Option.bind_map]
  rfl

end Gcode

open Gcode

variable {K : Type} [Field K] [LinearOrder K] [CircleRatio K]

/-- In the history of a program the active tool is that of the latest `T` code, values are lengths
by the latest code that decides it, and line `k` names a position or moves the active tool by its
own code and the value of its first `E` word. -/
theorem history_by_grammar (g90Influences : Bool) (ls : List CodeLine) :
    activeTool (ls.map CodeLine.text) = toolAfter ls ∧
    (Relative g90Influences (ls.map CodeLine.text) ↔ LengthsAfter g90Influences ls) ∧
    ∀ tool k,
      namedAt? (ls.map CodeLine.text) tool k =
        (if tool = toolAfter (ls.take k) then ls[k]?.bind CodeLine.named? else none) ∧
      ∀ position : K,
        (ls[k]?.bind CodeLine.extruded? = none ∨ tool ≠ toolAfter (ls.take k) →
          moveAt g90Influences (ls.map CodeLine.text) tool k position = 0) ∧
        ∀ e, ls[k]?.bind CodeLine.extruded? = some e → tool = toolAfter (ls.take k) →
          (LengthsAfter g90Influences (ls.take k) →
            moveAt g90Influences (ls.map CodeLine.text) tool k position = Scalar.ofDecimal e) ∧
          (¬LengthsAfter g90Influences (ls.take k) →
            moveAt g90Influences (ls.map CodeLine.text) tool k position =
              Scalar.ofDecimal e - position) := by
  refine ⟨activeTool_texts ls, relative_texts ls g90Influences, fun tool k => ?_⟩
  have hactive : activeTool ((ls.map CodeLine.text).take k) = toolAfter (ls.take k) := by
    rw [← List.map_take, activeTool_texts]
  have hrelative : Relative g90Influences ((ls.map CodeLine.text).take k) ↔
      LengthsAfter g90Influences (ls.take k) := by
    rw [← List.map_take, relative_texts]
  have hextruded : (ls.map CodeLine.text)[k]?.bind Gcode.extruded? =
      ls[k]?.bind CodeLine.extruded? := by
    rw [bind_texts]
    simp only [CodeLine.extruded?_text]
  refine ⟨?_, fun position => ⟨?_, fun e he htool => ⟨fun hlengths => ?_, fun hpositions => ?_⟩⟩⟩
  · unfold namedAt?
    rw [hactive, bind_texts]
    simp only [CodeLine.named?_text]
  · unfold moveAt
    rw [hactive, hextruded]
    rintro (hnone | htool)
    · rw [hnone, ite_self]
    · rw [if_neg htool]
  · unfold moveAt
    rw [hactive, hextruded, he, if_pos htool]
    exact if_pos (hrelative.mpr hlengths)
  · unfold moveAt
    rw [hactive, hextruded, he, if_pos htool]
    exact if_neg (mt hrelative.mp hpositions)

end Filament
