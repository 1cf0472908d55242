import Filament.Proofs.Odometer

/-!
Tools do not disturb each other.

The modes are shared by all tools, but a line moves no extruder but that of the active tool. Two
odometers that differ in nothing but the extruders of other tools (`AgreeOn`) therefore stay so when
both are fed a line, and also when only one of them is fed a move of another tool. Hence a program
may lose any of the moves of the other tools, and of the lines that name their positions, and a tool
is counted as before (`extrusion_unchanged_by_other_tools`). This holds for numbers of any kind,
doubles among them.
-/

namespace Filament

open Gcode

/-- A program without the lines at the places in `dropped`. -/
def without (lines : List String) (dropped : Nat → Bool) : List String :=
  (lines.zipIdx.filter fun e => !dropped e.2).map Prod.fst

theorem without_snoc (lines : List String) (line : String) (dropped : Nat → Bool) :
    without (lines ++ [line]) dropped =
      if dropped lines.length then without lines dropped else without lines dropped ++ [line] := by
  unfold without
  rw [List.zipIdx_append, List.filter_append, List.map_append]
  cases hdropped : dropped lines.length with
  | true => simp [hdropped]
  | false => simp [hdropped]

namespace Odometer

variable {α : Type} [Scalar α] {o p : Odometer α} {tool : Nat} {line : String}

/-- The odometers differ at most in the extruders of other tools. -/
structure AgreeOn (tool : Nat) (o p : Odometer α) : Prop where
  g90Influences : p.g90Influences = o.g90Influences
  relativeMode : p.relativeMode = o.relativeMode
  relativeExtrusion : p.relativeExtrusion = o.relativeExtrusion
  active : p.tool = o.tool
  length : p.extruders.length = o.extruders.length
  extruder : p.extruder tool = o.extruder tool

namespace AgreeOn

theorem refl (tool : Nat) (o : Odometer α) : AgreeOn tool o o := ⟨rfl, rfl, rfl, rfl, rfl, rfl⟩

theorem inRange (h : AgreeOn tool o p) (ho : o.InRange) : p.InRange := by
  unfold InRange
  rw [h.active, h.length]
  exact ho

theorem absoluteExtrusion (h : AgreeOn tool o p) : p.absoluteExtrusion = o.absoluteExtrusion := by
  unfold Odometer.absoluteExtrusion
  rw [h.g90Influences, h.relativeMode, h.relativeExtrusion]

theorem step (h : AgreeOn tool o p) (ho : o.InRange) (c : Command) :
    AgreeOn tool (o.step c) (p.step c) := by
  have hp : p.InRange := h.inRange ho
  have hmodify : ∀ f g : Extruder α → Extruder α, (∀ x, f x = g x) →
      AgreeOn tool (o.modifyActive f) (p.modifyActive g) := by
    intro f g hfg
    refine ⟨h.g90Influences, h.relativeMode, h.relativeExtrusion, h.active, ?_, ?_⟩
    · unfold modifyActive
      rw [List.length_modify, List.length_modify, h.length]
    · rw [extruder_modifyActive ho, extruder_modifyActive hp, h.extruder, h.active, hfg]
  cases c with
  | extrude e =>
    refine hmodify _ _ fun x => ?_
    rw [h.absoluteExtrusion]
  | position e => exact hmodify _ _ fun x => rfl
  | absoluteMode =>
    refine ⟨h.g90Influences, rfl, ?_, h.active, h.length, h.extruder⟩
    show (if p.g90Influences = true then false else p.relativeExtrusion) =
      if o.g90Influences = true then false else o.relativeExtrusion
    rw [h.g90Influences, h.relativeExtrusion]
  | relativeMode =>
    refine ⟨h.g90Influences, rfl, ?_, h.active, h.length, h.extruder⟩
    show (if p.g90Influences = true then true else p.relativeExtrusion) =
      if o.g90Influences = true then true else o.relativeExtrusion
    rw [h.g90Influences, h.relativeExtrusion]
  | absoluteExtrusion =>
    exact ⟨h.g90Influences, h.relativeMode, rfl, h.active, h.length, h.extruder⟩
  | relativeExtrusion =>
    exact ⟨h.g90Influences, h.relativeMode, rfl, h.active, h.length, h.extruder⟩
  | select next =>
    refine ⟨h.g90Influences, h.relativeMode, h.relativeExtrusion, rfl, ?_, ?_⟩
    · show (p.select next).extruders.length = (o.select next).extruders.length
      unfold select
      rw [List.length_append, List.length_append, List.length_replicate, List.length_replicate,
        h.length]
    · show (p.select next).extruder tool = (o.select next).extruder tool
      rw [extruder_select, extruder_select, h.extruder]

/-- Both are fed the line. -/
theorem feedLine (h : AgreeOn tool o p) (ho : o.InRange) (line : String) :
    AgreeOn tool (o.feedLine line) (p.feedLine line) := by
  rw [feedLine_eq, feedLine_eq]
  cases ofLine? line with
  | none => exact h
  | some c => exact h.step ho c

/-- Only one is fed the line, which moves another tool or names its position. -/
theorem feedLine_left (h : AgreeOn tool o p) (ho : o.InRange) (hline : HasCode moveCodes line)
    (hother : o.tool ≠ tool) : AgreeOn tool (o.feedLine line) p := by
  have hmodify : ∀ f : Extruder α → Extruder α, AgreeOn tool (o.modifyActive f) p := by
    intro f
    refine ⟨h.g90Influences, h.relativeMode, h.relativeExtrusion, h.active, ?_, ?_⟩
    · unfold modifyActive
      rw [List.length_modify, h.length]
    · rw [extruder_modifyActive ho, if_neg (Ne.symm hother), h.extruder]
  rcases ofLine?_of_moveCode hline with hnone | ⟨e, hmove⟩ | ⟨e, hname⟩
  · rw [feedLine_eq, hnone]
    exact h
  · rw [feedLine_of_ofLine? hmove]
    exact hmodify _
  · rw [feedLine_of_ofLine? hname]
    exact hmodify _

end AgreeOn

/-- The runs with and without the dropped lines stay in agreement line by line. -/
theorem agreeOn_without (g90Influences : Bool) {lines : List String} {tool : Nat}
    {dropped : Nat → Bool}
    (h : ∀ k line, dropped k = true → lines[k]? = some line →
      HasCode moveCodes line ∧
        ((start g90Influences : Odometer α).feedLines (lines.take k)).tool ≠ tool) :
    AgreeOn tool ((start g90Influences : Odometer α).feedLines lines)
      ((start g90Influences).feedLines (without lines dropped)) := by
  induction lines using List.reverseRecOn with
  | nil => exact .refl tool _
  | append_singleton lines line ih =>
    have hrange := inRange_feedLines (α := α) g90Influences lines
    have hbefore := ih fun k other hk hother => by
      obtain ⟨hlt, -⟩ := List.getElem?_eq_some_iff.mp hother
      have hline := h k other hk (by rw [List.getElem?_append_left hlt, hother])
      rw [List.take_append_of_le_length (Nat.le_of_lt hlt)] at hline
      exact hline
    rw [feedLines_snoc, without_snoc]
    by_cases hdropped : dropped lines.length = true
    · obtain ⟨hcode, hother⟩ := h lines.length line hdropped (by simp)
      rw [List.take_left' rfl] at hother
      rw [if_pos hdropped]
      exact hbefore.feedLine_left hrange hcode hother
    · rw [if_neg hdropped, feedLines_snoc]
      exact hbefore.feedLine hrange line

/-- A program may lose any lines with G0, G1 or G92 that it executes while another tool is active.
The tool is counted as before, the same tool is active at the end, and as many tools are
followed. -/
theorem extrusion_unchanged_by_other_tools (g90Influences : Bool) (lines : List String) (tool : Nat)
    (dropped : Nat → Bool)
    (h : ∀ k line, dropped k = true → lines[k]? = some line →
      HasCode [('G', 0), ('G', 1), ('G', 92)] line ∧
        ((start g90Influences : Odometer α).feedLines (lines.take k)).tool ≠ tool) :
    let o : Odometer α := (start g90Influences).feedLines lines
    let p : Odometer α := (start g90Influences).feedLines (without lines dropped)
    p.extrusionFor tool = o.extrusionFor tool ∧ p.tool = o.tool ∧
      p.extruders.length = o.extruders.length := by
  intro o p
  have hagree : AgreeOn tool o p := agreeOn_without g90Influences h
  refine ⟨?_, hagree.active, hagree.length⟩
  rw [extrusionFor_eq, extrusionFor_eq, hagree.extruder]

/-- The second tool moves, has its position named and moves again before the first one goes on. -/
def twoToolLines : List String :=
  ["M83", "G1 E5", "T1", "G1 E7", "G92 E3", "G0 E2", "T0", "M82", "G1 E9"]

/-- Without the first move of the second tool and the name of its position. -/
theorem extrusion_unchanged_two_tools :
    without twoToolLines (fun k => k == 3 || k == 4) =
      ["M83", "G1 E5", "T1", "G0 E2", "T0", "M82", "G1 E9"] ∧
    ((start true : Odometer Float).feedLines
        (without twoToolLines fun k => k == 3 || k == 4)).extrusionFor 0 =
      ((start true).feedLines twoToolLines).extrusionFor 0 := by
  refine ⟨by decide, (extrusion_unchanged_by_other_tools true twoToolLines 0 _ ?_).1⟩
  intro k line hdropped hline
  simp only [Bool.or_eq_true, beq_iff_eq] at hdropped
  rcases hdropped with rfl | rfl
  · obtain rfl : "G1 E7" = line := Option.some.inj hline
    decide
  · obtain rfl : "G92 E3" = line := Option.some.inj hline
    decide

end Odometer
end Filament
