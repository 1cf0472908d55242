import Mathlib.Data.List.Induction
import Filament.Proofs.Program

/-!
What a line does to the odometer.

Every tool has an extruder, at rest until the tool is selected for the first time (`extruder`), so
the tools that the odometer follows and those that it does not are spoken of alike. The modes and
the active tool follow the codes of the lines, and a line moves no extruder but that of the active
tool (`extruder_feedLine`).
-/

namespace Filament
namespace Odometer

open Gcode

variable {α : Type} [Scalar α] {o : Odometer α}

def feedLines (o : Odometer α) (lines : List String) : Odometer α := lines.foldl feedLine o

theorem feedLines_snoc (o : Odometer α) (lines : List String) (line : String) :
    o.feedLines (lines ++ [line]) = (o.feedLines lines).feedLine line := by
  unfold feedLines
  rw [List.foldl_append]
  rfl

theorem feedLine_eq (o : Odometer α) (line : String) :
    o.feedLine line = ((ofLine? line).map o.step).getD o := by
  unfold feedLine
  cases ofLine? line <;> rfl

theorem feedLine_of_ofLine? {line : String} {c : Command} (h : ofLine? line = some c) :
    o.feedLine line = o.step c := by
  rw [feedLine_eq, h]
  rfl

theorem feedLine_reads (o : Odometer α) (line : String) :
    ∃ c, Reads line c ∧ o.feedLine line = (c.map o.step).getD o :=
  ⟨ofLine? line, reads line, feedLine_eq o line⟩

/-! ## Extruders -/

def extruder (o : Odometer α) (tool : Nat) : Extruder α := o.extruders[tool]?.getD Extruder.rest

/-- The active tool is followed. -/
def InRange (o : Odometer α) : Prop := o.tool < o.extruders.length

theorem extrusionFor_eq (o : Odometer α) (tool : Nat) :
    o.extrusionFor tool = (o.extruder tool).furthest := by
  unfold extrusionFor extruder
  cases o.extruders[tool]? <;> rfl

theorem extrusion_getElem? {tool : Nat} {length : α} (h : o.extrusion[tool]? = some length) :
    length = o.extrusionFor tool := by
  unfold extrusion at h
  unfold extrusionFor
  rw [List.getElem?_map] at h
  obtain ⟨x, hx, rfl⟩ := Option.map_eq_some_iff.mp h
  rw [hx]

theorem extrusion_getElem?_of_ne_zero {tool : Nat} (h : o.extrusionFor tool ≠ Scalar.zero) :
    o.extrusion[tool]? = some (o.extrusionFor tool) := by
  unfold extrusion
  unfold extrusionFor at h ⊢
  rw [List.getElem?_map]
  cases hx : o.extruders[tool]? with
  | none =>
    rw [hx] at h
    exact absurd rfl h
  | some x => rfl

theorem extruder_start (g90Influences : Bool) (tool : Nat) :
    (start g90Influences : Odometer α).extruder tool = Extruder.rest := by
  cases tool <;> rfl

theorem extruder_select (o : Odometer α) (next tool : Nat) :
    (o.select next).extruder tool = o.extruder tool := by
  unfold extruder select
  by_cases htool : tool < o.extruders.length
  · rw [List.getElem?_append_left htool]
  · have hle : o.extruders.length ≤ tool := Nat.le_of_not_lt htool
    rw [List.getElem?_append_right hle, List.getElem?_eq_none hle, List.getElem?_replicate]
    split <;> rfl

theorem extruder_modifyActive (ho : o.InRange) (f : Extruder α → Extruder α) (tool : Nat) :
    (o.modifyActive f).extruder tool =
      if tool = o.tool then f (o.extruder tool) else o.extruder tool := by
  unfold extruder modifyActive
  rw [List.getElem?_modify]
  by_cases htool : tool = o.tool
  · subst htool
    have hget : o.extruders[o.tool]? = some o.extruders[o.tool] := List.getElem?_eq_getElem ho
    simp [hget]
  · simp [htool, Ne.symm htool]

/-- Whether or not the active tool is followed, at most one extruder is moved. -/
theorem extruder_modifyActive_eq_or (o : Odometer α) (f : Extruder α → Extruder α) (tool : Nat) :
    (o.modifyActive f).extruder tool = o.extruder tool ∨
      (o.modifyActive f).extruder tool = f (o.extruder tool) := by
  unfold extruder modifyActive
  rw [List.getElem?_modify]
  cases o.extruders[tool]? with
  | none => exact Or.inl rfl
  | some x =>
    by_cases htool : o.tool = tool
    · right
      simp [htool]
    · left
      simp [htool]

/-! ## The active tool is followed -/

theorem inRange_start (g90Influences : Bool) : (start g90Influences : Odometer α).InRange :=
  Nat.zero_lt_one

theorem inRange_feedLine (ho : o.InRange) (line : String) : (o.feedLine line).InRange := by
  have hmodify : ∀ f, (o.modifyActive f).InRange := by
    intro f
    unfold InRange modifyActive
    rw [List.length_modify]
    exact ho
  rw [feedLine_eq]
  cases ofLine? line with
  | none => exact ho
  | some c =>
    cases c with
    | select tool =>
      show tool <
        (o.extruders ++ List.replicate (tool + 1 - o.extruders.length) Extruder.rest).length
      rw [List.length_append, List.length_replicate]
      omega
    | extrude e => exact hmodify _
    | position e => exact hmodify _
    | _ => exact ho

/-! ## One line -/

@[simp] theorem feedLine_g90Influences (o : Odometer α) (line : String) :
    (o.feedLine line).g90Influences = o.g90Influences := by
  rw [feedLine_eq]
  cases ofLine? line with
  | none => rfl
  | some c => cases c <;> rfl

theorem feedLine_tool (o : Odometer α) (line : String) :
    (o.feedLine line).tool = (selected? line).getD o.tool := by
  obtain ⟨c, hline, hstep⟩ := o.feedLine_reads line
  rw [hstep]
  cases hline <;> simp_all [step, select, modifyActive]

theorem feedLine_relativeMode (o : Odometer α) (line : String) :
    (o.feedLine line).relativeMode = true ↔
      HasCode [('G', 91)] line ∨ ¬HasCode [('G', 90)] line ∧ o.relativeMode = true := by
  obtain ⟨c, hline, hstep⟩ := o.feedLine_reads line
  rw [hstep]
  cases hline <;> simp_all [step, select, modifyActive, HasCode, modeCodes]

/-- With the setting the modes of moves switch the extruder as well. -/
theorem feedLine_relativeExtrusion_of_influences (h : o.g90Influences = true) (line : String) :
    (o.feedLine line).relativeExtrusion = true ↔
      HasCode [('G', 91), ('M', 83)] line ∨
        ¬HasCode [('G', 90), ('M', 82)] line ∧ o.relativeExtrusion = true := by
  obtain ⟨c, hline, hstep⟩ := o.feedLine_reads line
  rw [hstep]
  cases hline <;> simp_all [step, select, modifyActive, HasCode, modeCodes]

theorem feedLine_relativeExtrusion_of_not_influences (h : o.g90Influences = false) (line : String) :
    (o.feedLine line).relativeExtrusion = true ↔
      HasCode [('M', 83)] line ∨ ¬HasCode [('M', 82)] line ∧ o.relativeExtrusion = true := by
  obtain ⟨c, hline, hstep⟩ := o.feedLine_reads line
  rw [hstep]
  cases hline <;> simp_all [step, select, modifyActive, HasCode, modeCodes]

/-- What a line does to the extruder of the active tool. -/
def drive (o : Odometer α) (line : String) (x : Extruder α) : Extruder α :=
  match extruded? line, named? line with
  | some e, _ => x.feed o.absoluteExtrusion (Scalar.ofDecimal e)
  | none, some e => { x with position := Scalar.ofDecimal e }
  | none, none => x

theorem extruder_feedLine (ho : o.InRange) (line : String) (tool : Nat) :
    (o.feedLine line).extruder tool =
      if tool = o.tool then o.drive line (o.extruder tool) else o.extruder tool := by
  obtain ⟨c, hline, hstep⟩ := o.feedLine_reads line
  rw [hstep]
  cases hline with
  | select next hmode hselected hextruded hnamed =>
    rw [drive, hextruded, hnamed, ite_self]
    exact extruder_select o next tool
  | extrude e hmode hselected hextruded hnamed =>
    rw [drive, hextruded, hnamed]
    exact extruder_modifyActive ho _ tool
  | position e hmode hselected hextruded hnamed =>
    rw [drive, hextruded, hnamed]
    exact extruder_modifyActive ho _ tool
  | absoluteMode hnumber hselected hextruded hnamed
  | relativeMode hnumber hselected hextruded hnamed
  | absoluteExtrusion hnumber hselected hextruded hnamed
  | relativeExtrusion hnumber hselected hextruded hnamed
  | nothing hmode hselected hextruded hnamed =>
    rw [drive, hextruded, hnamed, ite_self]
    rfl

/-- How far a tool came is kept, or weighed against a new sum of its moves. -/
theorem extrusionFor_feedLine (o : Odometer α) (line : String) (tool : Nat) :
    (o.feedLine line).extrusionFor tool = o.extrusionFor tool ∨
      ∃ total, (o.feedLine line).extrusionFor tool = Scalar.larger (o.extrusionFor tool) total := by
  rw [extrusionFor_eq, extrusionFor_eq, feedLine_eq]
  cases ofLine? line with
  | none => exact Or.inl rfl
  | some c =>
    cases c with
    | extrude e =>
      rcases extruder_modifyActive_eq_or o _ tool with hsame | hmoved
      · exact Or.inl (congrArg Extruder.furthest hsame)
      · exact Or.inr ⟨_, congrArg Extruder.furthest hmoved⟩
    | position e =>
      left
      rcases extruder_modifyActive_eq_or o _ tool with hsame | hmoved
      · exact congrArg Extruder.furthest hsame
      · exact (congrArg Extruder.furthest hmoved).trans rfl
    | select next => exact Or.inl (congrArg Extruder.furthest (extruder_select o next tool))
    | _ => exact Or.inl rfl

/-- A line extrudes with no tool but the one that is active after it. -/
theorem extrusionFor_feedLine_of_ne (ho : o.InRange) {line : String} {tool : Nat}
    (h : tool ≠ (o.feedLine line).tool) :
    (o.feedLine line).extrusionFor tool = o.extrusionFor tool := by
  rw [extrusionFor_eq, extrusionFor_eq, extruder_feedLine ho]
  by_cases htool : tool = o.tool
  · -- The tool was left, so the line selected another one and is no move.
    have hselected : selected? line ≠ none := by
      intro hnone
      rw [feedLine_tool, hnone] at h
      exact h htool
    have hextruded : extruded? line = none := by
      have hline := reads line
      generalize ofLine? line = c at hline
      cases hline <;> simp_all
    rw [if_pos htool, drive, hextruded]
    cases named? line <;> rfl
  · rw [if_neg htool]

/-! ## A program -/

variable (g90Influences : Bool) (lines : List String)

theorem inRange_feedLines : ((start g90Influences : Odometer α).feedLines lines).InRange := by
  induction lines using List.reverseRecOn with
  | nil => exact inRange_start g90Influences
  | append_singleton lines line ih =>
    rw [feedLines_snoc]
    exact inRange_feedLine ih line

theorem g90Influences_feedLines :
    ((start g90Influences : Odometer α).feedLines lines).g90Influences = g90Influences := by
  induction lines using List.reverseRecOn with
  | nil => rfl
  | append_singleton lines line ih => rw [feedLines_snoc, feedLine_g90Influences, ih]

theorem tool_feedLines :
    ((start g90Influences : Odometer α).feedLines lines).tool = activeTool lines := by
  induction lines using List.reverseRecOn with
  | nil => rfl
  | append_singleton lines line ih => rw [feedLines_snoc, feedLine_tool, activeTool_snoc, ih]

theorem relativeMode_feedLines :
    ((start g90Influences : Odometer α).feedLines lines).relativeMode = true ↔
      SwitchedOn [('G', 91)] [('G', 90)] lines := by
  induction lines using List.reverseRecOn with
  | nil => simp [feedLines, start, SwitchedOn, latest?]
  | append_singleton lines line ih =>
    rw [feedLines_snoc, feedLine_relativeMode, switchedOn_snoc, ih]

theorem relativeExtrusion_feedLines :
    ((start g90Influences : Odometer α).feedLines lines).relativeExtrusion = true ↔
      if g90Influences then SwitchedOn [('G', 91), ('M', 83)] [('G', 90), ('M', 82)] lines
      else SwitchedOn [('M', 83)] [('M', 82)] lines := by
  induction lines using List.reverseRecOn with
  | nil => cases g90Influences <;> simp [feedLines, start, SwitchedOn, latest?]
  | append_singleton lines line ih =>
    have hsetting := g90Influences_feedLines (α := α) g90Influences lines
    rw [feedLines_snoc]
    cases g90Influences with
    | true =>
      rw [feedLine_relativeExtrusion_of_influences hsetting, if_pos rfl, switchedOn_snoc, ih,
        if_pos rfl]
    | false =>
      rw [feedLine_relativeExtrusion_of_not_influences hsetting, if_neg Bool.false_ne_true,
        switchedOn_snoc, ih, if_neg Bool.false_ne_true]

theorem absoluteExtrusion_feedLines :
    ((start g90Influences : Odometer α).feedLines lines).absoluteExtrusion = false ↔
      Relative g90Influences lines := by
  have hmode := relativeMode_feedLines (α := α) g90Influences lines
  have hextrusion := relativeExtrusion_feedLines (α := α) g90Influences lines
  unfold absoluteExtrusion Relative
  rw [g90Influences_feedLines]
  cases g90Influences with
  | true =>
    rw [if_pos rfl] at hextrusion
    rw [if_pos rfl, if_pos rfl, ← hextrusion, Bool.not_eq_false']
  | false =>
    rw [if_neg Bool.false_ne_true] at hextrusion
    rw [if_neg Bool.false_ne_true, if_neg Bool.false_ne_true, ← hmode, ← hextrusion,
      Bool.and_eq_false_iff, Bool.not_eq_false', Bool.not_eq_false']

end Odometer
end Filament
