import Mathlib.Order.Bounds.Basic
import Filament.Proofs.Exact
import Filament.Proofs.Odometer

/-!
The odometer as its history says.

The odometer keeps a state from line to line. The same can be read off the lines of the program
alone: which of them move a tool and by how much, where a tool stands after the latest line that
named its position, and how far it ever got. `odometer_eq_history` says that the two agree after
every program. Numbers are those of exact arithmetic.
-/

namespace Filament

open Gcode

variable {K : Type} [Field K] [LinearOrder K] [CircleRatio K]

/-! ## Moves read off a program -/

section

variable (g90Influences : Bool) (lines : List String) (tool : Nat)

/-- The position that line `k` names for the tool. -/
def namedAt? (k : Nat) : Option Decimal :=
  if tool = activeTool (lines.take k) then lines[k]?.bind named? else none

/-- The latest of the first `n` lines that names the position of the tool, with that position. -/
def latestNamed? : Nat → Option (Nat × Decimal)
  | 0 => none
  | n + 1 => ((namedAt? lines tool n).map fun e => (n, e)).or (latestNamed? n)

/-- Where the tool stands after `n` lines that moved it so: at the position named last plus the
moves since. -/
def standing (n : Nat) (moves : List K) : K :=
  match latestNamed? lines tool n with
  | some (k, e) => Scalar.ofDecimal e + (moves.drop (k + 1)).sum
  | none => moves.sum

/-- How far line `k` moves the tool from a position: by the `E` value if it is relative, up to it if
not. -/
def moveAt (k : Nat) (position : K) : K :=
  if tool = activeTool (lines.take k) then
    match lines[k]?.bind extruded? with
    | some e =>
      if Relative g90Influences (lines.take k) then Scalar.ofDecimal e
      else Scalar.ofDecimal e - position
    | none => 0
  else 0

/-- How far each of the first `n` lines moves the tool. -/
def moves : Nat → List K
  | 0 => []
  | n + 1 => moves n ++ [moveAt g90Influences lines tool n (standing lines tool n (moves n))]

def positionAfter (n : Nat) : K := standing lines tool n (moves g90Influences lines tool n)

/-- The sum of all moves of the tool in the first `n` lines. -/
def travel (n : Nat) : K := (moves g90Influences lines tool n).sum

end

/-! ## One line more -/

section

variable {lines : List String} {tool n : Nat} {moves : List K} {move : K}

theorem latestNamed?_lt {k : Nat} {e : Decimal} (h : latestNamed? lines tool n = some (k, e)) :
    k < n := by
  induction n with
  | zero => cases h
  | succ n ih =>
    rw [latestNamed?, Option.or_eq_some_iff] at h
    rcases h with h | ⟨-, h⟩
    · obtain ⟨e', -, he⟩ := Option.map_eq_some_iff.mp h
      have hk : n = k := congrArg Prod.fst he
      omega
    · exact Nat.lt_succ_of_lt (ih h)

/-- A line that names no position moves the tool from where it stands. -/
theorem standing_snoc_of_none (hlength : moves.length = n) (h : namedAt? lines tool n = none) :
    standing lines tool (n + 1) (moves ++ [move]) = standing lines tool n moves + move := by
  have hlatest : latestNamed? lines tool (n + 1) = latestNamed? lines tool n := by
    rw [latestNamed?, h]
    rfl
  unfold standing
  rw [hlatest]
  cases hnamed : latestNamed? lines tool n with
  | none => simp
  | some named =>
    obtain ⟨k, e⟩ := named
    have hk : k + 1 ≤ moves.length := by
      have hlt := latestNamed?_lt hnamed
      omega
    simp [List.drop_append_of_le_length hk, add_assoc]

theorem standing_snoc_of_some {e : Decimal} (hlength : moves.length = n)
    (h : namedAt? lines tool n = some e) :
    standing lines tool (n + 1) (moves ++ [move]) = Scalar.ofDecimal e := by
  have hlatest : latestNamed? lines tool (n + 1) = some (n, e) := by
    rw [latestNamed?, h]
    rfl
  have hdrop : (moves ++ [move]).drop (n + 1) = [] := by
    rw [List.drop_eq_nil_iff, List.length_append, hlength]
    exact Nat.le_refl _
  unfold standing
  rw [hlatest]
  dsimp only
  rw [hdrop, List.sum_nil, add_zero]

end

section

variable {g90Influences : Bool} {lines : List String} {tool : Nat}

theorem length_moves (n : Nat) : (moves g90Influences lines tool n : List K).length = n := by
  induction n with
  | zero => rfl
  | succ n ih => rw [moves, List.length_append, ih]; rfl

theorem travel_succ (n : Nat) :
    (travel g90Influences lines tool (n + 1) : K) = travel g90Influences lines tool n +
      moveAt g90Influences lines tool n (positionAfter g90Influences lines tool n) := by
  unfold travel
  rw [moves, List.sum_append, List.sum_singleton]
  rfl

end

/-! ## The odometer -/

namespace Odometer

/-- How far a line moves the extruder of a tool. -/
def moveOf (o : Odometer K) (line : String) (tool : Nat) : K :=
  if tool = o.tool then
    match extruded? line with
    | some e =>
      if o.absoluteExtrusion = false then Scalar.ofDecimal e
      else Scalar.ofDecimal e - (o.extruder tool).position
    | none => 0
  else 0

variable {o : Odometer K}

theorem total_feedLine (ho : o.InRange) (line : String) (tool : Nat) :
    ((o.feedLine line).extruder tool).total = (o.extruder tool).total + o.moveOf line tool := by
  rw [extruder_feedLine ho, moveOf]
  by_cases htool : tool = o.tool
  · rw [if_pos htool, if_pos htool, drive]
    cases extruded? line with
    | some e => cases habsolute : o.absoluteExtrusion <;> simp [Extruder.feed, Extruder.move]
    | none => cases named? line <;> simp
  · rw [if_neg htool, if_neg htool, add_zero]

theorem position_feedLine (ho : o.InRange) (line : String) (tool : Nat) :
    ((o.feedLine line).extruder tool).position =
      match (if tool = o.tool then named? line else none) with
      | some e => Scalar.ofDecimal e
      | none => (o.extruder tool).position + o.moveOf line tool := by
  rw [extruder_feedLine ho, moveOf]
  by_cases htool : tool = o.tool
  · rw [if_pos htool, if_pos htool, if_pos htool, drive]
    cases hnamed : named? line with
    | some e => rw [extruded?_of_named? hnamed]
    | none =>
      cases extruded? line with
      | some e => cases habsolute : o.absoluteExtrusion <;> simp [Extruder.feed, Extruder.move]
      | none => simp
  · rw [if_neg htool, if_neg htool, if_neg htool, add_zero]

theorem furthest_feedLine (ho : o.InRange) (line : String) (tool : Nat)
    (h : (o.extruder tool).total ≤ (o.extruder tool).furthest) :
    ((o.feedLine line).extruder tool).furthest =
      max (o.extruder tool).furthest ((o.feedLine line).extruder tool).total := by
  rw [extruder_feedLine ho]
  by_cases htool : tool = o.tool
  · rw [if_pos htool, drive]
    cases extruded? line with
    | some e => exact Exact.larger_eq_max _ _
    | none => cases named? line <;> exact (max_eq_left h).symm
  · rw [if_neg htool, max_eq_left h]

end Odometer

/-! ## Runs -/

section

variable (g90Influences : Bool) (lines : List String)

/-- The odometer after the first `n` lines. -/
def odometerAfter (n : Nat) : Odometer K :=
  (Odometer.start g90Influences).feedLines (lines.take n)

/-- The extruders are where the moves of the first `n` lines took them. -/
structure Travelled (o : Odometer K) (n tool : Nat) : Prop where
  position : (o.extruder tool).position = positionAfter g90Influences lines tool n
  total : (o.extruder tool).total = travel g90Influences lines tool n
  furthest : IsGreatest {x : K | ∃ m ≤ n, x = travel g90Influences lines tool m}
    (o.extruder tool).furthest

variable {g90Influences lines}

theorem odometerAfter_succ {n : Nat} {line : String} (h : lines[n]? = some line) :
    (odometerAfter g90Influences lines (n + 1) : Odometer K) =
      (odometerAfter g90Influences lines n).feedLine line := by
  unfold odometerAfter
  rw [List.take_add_one, h, Option.toList_some, Odometer.feedLines_snoc]

omit [Field K] [CircleRatio K] in
theorem isGreatest_max_succ {f : Nat → K} {n : Nat} {a : K}
    (h : IsGreatest {x | ∃ m ≤ n, x = f m} a) :
    IsGreatest {x | ∃ m ≤ n + 1, x = f m} (max a (f (n + 1))) := by
  obtain ⟨⟨m, hm, ha⟩, hbound⟩ := h
  constructor
  · rcases max_choice a (f (n + 1)) with hmax | hmax
    · exact ⟨m, Nat.le_succ_of_le hm, hmax.trans ha⟩
    · exact ⟨n + 1, Nat.le_refl _, hmax⟩
  · rintro x ⟨k, hk, rfl⟩
    rcases Nat.le_succ_iff.mp hk with hle | rfl
    · exact (hbound ⟨k, hle, rfl⟩).trans (le_max_left _ _)
    · exact le_max_right _ _

theorem travelled_start (tool : Nat) :
    Travelled g90Influences lines (Odometer.start g90Influences : Odometer K) 0 tool := by
  have hzero : (travel g90Influences lines tool 0 : K) = 0 := rfl
  have hrest : ((Odometer.start g90Influences : Odometer K).extruder tool).furthest = 0 := by
    rw [Odometer.extruder_start]
    exact Exact.zero_eq
  refine ⟨?_, ?_, ?_⟩
  · rw [Odometer.extruder_start]
    exact Exact.zero_eq
  · rw [Odometer.extruder_start, hzero]
    exact Exact.zero_eq
  · rw [hrest]
    refine ⟨⟨0, Nat.le_refl 0, hzero.symm⟩, ?_⟩
    rintro x ⟨m, hm, rfl⟩
    rw [Nat.le_zero.mp hm, hzero]

theorem moveOf_eq {n tool : Nat} {line : String} (hline : lines[n]? = some line)
    (h : Travelled g90Influences lines (odometerAfter g90Influences lines n : Odometer K) n tool) :
    (odometerAfter g90Influences lines n : Odometer K).moveOf line tool =
      moveAt g90Influences lines tool n (positionAfter g90Influences lines tool n) := by
  have htool := Odometer.tool_feedLines (α := K) g90Influences (lines.take n)
  have hmode := Odometer.absoluteExtrusion_feedLines (α := K) g90Influences (lines.take n)
  unfold Odometer.moveOf moveAt odometerAfter
  have hposition := h.position
  unfold odometerAfter at hposition
  simp only [hposition, hline, Option.bind_some, htool, hmode]

theorem travelled_succ {n tool : Nat} {line : String} (hline : lines[n]? = some line)
    (h : Travelled g90Influences lines (odometerAfter g90Influences lines n : Odometer K) n tool) :
    Travelled g90Influences lines (odometerAfter g90Influences lines (n + 1) : Odometer K) (n + 1)
      tool := by
  have hrange : (odometerAfter g90Influences lines n : Odometer K).InRange :=
    Odometer.inRange_feedLines g90Influences (lines.take n)
  have htool : (odometerAfter g90Influences lines n : Odometer K).tool =
      activeTool (lines.take n) :=
    Odometer.tool_feedLines g90Influences (lines.take n)
  have hmove := moveOf_eq hline h
  have htotal : ((odometerAfter g90Influences lines (n + 1) : Odometer K).extruder tool).total =
      travel g90Influences lines tool (n + 1) := by
    rw [odometerAfter_succ hline, Odometer.total_feedLine hrange, hmove, h.total, travel_succ]
  have hbelow : ((odometerAfter g90Influences lines n : Odometer K).extruder tool).total ≤
      ((odometerAfter g90Influences lines n).extruder tool).furthest :=
    h.furthest.2 ⟨n, Nat.le_refl n, h.total⟩
  have hfurthest := Odometer.furthest_feedLine hrange line tool hbelow
  rw [← odometerAfter_succ hline, htotal] at hfurthest
  refine ⟨?_, htotal, ?_⟩
  · rw [odometerAfter_succ hline, Odometer.position_feedLine hrange, hmove, h.position, htool]
    have hnamed : namedAt? lines tool n =
        if tool = activeTool (lines.take n) then named? line else none := by
      rw [namedAt?, hline, Option.bind_some]
    rw [← hnamed]
    unfold positionAfter
    rw [moves]
    cases hat : namedAt? lines tool n with
    | some e => exact (standing_snoc_of_some (length_moves n) hat).symm
    | none => exact (standing_snoc_of_none (length_moves n) hat).symm
  · rw [hfurthest]
    exact isGreatest_max_succ h.furthest

theorem travelled_odometerAfter {n : Nat} (hn : n ≤ lines.length) (tool : Nat) :
    Travelled g90Influences lines (odometerAfter g90Influences lines n : Odometer K) n tool := by
  induction n with
  | zero => exact travelled_start tool
  | succ n ih =>
    have hline : lines[n]? = some lines[n] := List.getElem?_eq_getElem hn
    exact travelled_succ hline (ih (Nat.le_of_succ_le hn))

theorem activeTool_ne {tool : Nat} (htool : tool ≠ 0)
    (h : ∀ line ∈ lines, selected? line ≠ some tool) : tool ≠ activeTool lines := by
  intro hactive
  unfold activeTool at hactive
  cases hlast : (lines.filterMap selected?).getLast? with
  | none =>
    rw [hlast] at hactive
    exact htool hactive
  | some last =>
    rw [hlast] at hactive
    obtain ⟨line, hline, hselected⟩ := List.mem_filterMap.mp (List.mem_of_getLast? hlast)
    obtain rfl : tool = last := hactive
    exact h line hline hselected

theorem travel_eq_zero {tool : Nat} (h : ∀ k, tool ≠ activeTool (lines.take k)) (n : Nat) :
    (travel g90Influences lines tool n : K) = 0 := by
  induction n with
  | zero => rfl
  | succ n ih => rw [travel_succ, ih, moveAt, if_neg (h n), add_zero]

end

theorem travelled_feedLines (g90Influences : Bool) (lines : List String) (tool : Nat) :
    Travelled g90Influences lines ((Odometer.start g90Influences).feedLines lines : Odometer K)
      lines.length tool := by
  have h : Travelled g90Influences lines
      (odometerAfter g90Influences lines lines.length : Odometer K)
      lines.length tool := travelled_odometerAfter (Nat.le_refl lines.length) tool
  unfold odometerAfter at h
  rw [List.take_length] at h
  exact h

theorem extrusionFor_nonneg (g90Influences : Bool) (lines : List String) (tool : Nat) :
    (0 : K) ≤ ((Odometer.start g90Influences).feedLines lines).extrusionFor tool := by
  rw [Odometer.extrusionFor_eq]
  exact (travelled_feedLines g90Influences lines tool).furthest.2 ⟨0, Nat.zero_le _, rfl⟩

/-- After every program, fed line by line or as a text, the odometer holds what the lines alone say.
The active tool is that of the latest selection, and an `E` value is a length by the latest codes
that decide it. Each tool stands at its latest named position plus its moves since, and what it
extruded is the largest value that the sum of its moves had after any number of lines, zero before
the first. -/
theorem odometer_eq_history (g90Influences : Bool) (lines : List String) :
    let o : Odometer K := (Odometer.start g90Influences).feedLines lines
    (∀ program, Text.lines program = lines →
      (Odometer.start g90Influences).feedProgram program = o) ∧
    o.tool = activeTool lines ∧
    (o.absoluteExtrusion = false ↔ Relative g90Influences lines) ∧
    ∀ tool,
      (o.extruder tool).position = positionAfter g90Influences lines tool lines.length ∧
      IsGreatest {x | ∃ n ≤ lines.length, x = travel g90Influences lines tool n}
        (o.extrusionFor tool) ∧
      0 ≤ o.extrusionFor tool ∧
      (tool ≠ 0 → (∀ line ∈ lines, selected? line ≠ some tool) → o.extrusionFor tool = 0) := by
  intro o
  refine ⟨?_, Odometer.tool_feedLines g90Influences lines,
    Odometer.absoluteExtrusion_feedLines g90Influences lines, fun tool => ?_⟩
  · rintro program rfl
    rfl
  have htravelled : Travelled g90Influences lines o lines.length tool :=
    travelled_feedLines g90Influences lines tool
  have hgreatest := htravelled.furthest
  rw [← Odometer.extrusionFor_eq] at hgreatest
  refine ⟨htravelled.position, hgreatest, extrusionFor_nonneg g90Influences lines tool, ?_⟩
  intro htool hnever
  obtain ⟨n, -, hn⟩ := hgreatest.1
  rw [hn]
  refine travel_eq_zero (fun k => activeTool_ne htool fun line hline => ?_) n
  exact hnever line (List.mem_of_mem_take hline)

/-- The second tool extrudes, is told to be elsewhere and takes some of it back. -/
def retracting : List String := ["G1 E5", "T1", "M83", "G1 E2", "G92 E9", "G1 E-1"]

theorem odometer_eq_history_retracting :
    let o : Odometer ℚ := (Odometer.start true).feedLines retracting
    o.tool = 1 ∧ o.absoluteExtrusion = false ∧ (o.extruder 1).position = 8 ∧
      o.extrusionFor 1 = 2 ∧ o.extrusionFor 2 = 0 := by
  obtain ⟨-, htool, hmode, htools⟩ := odometer_eq_history (K := ℚ) true retracting
  obtain ⟨hposition, hgreatest, -, -⟩ := htools 1
  have hreached :
      IsGreatest {x | ∃ n ≤ retracting.length, x = travel true retracting 1 n} (2 : ℚ) := by
    refine ⟨⟨4, by decide, by decide +kernel⟩, ?_⟩
    have hbound : ∀ n ≤ retracting.length, (travel true retracting 1 n : ℚ) ≤ 2 := by decide +kernel
    rintro x ⟨n, hn, rfl⟩
    exact hbound n hn
  exact ⟨htool.trans (by decide), hmode.mpr (by decide),
    hposition.trans (by decide +kernel), hgreatest.unique hreached,
    (htools 2).2.2.2 (by decide) (by decide)⟩

end Filament
