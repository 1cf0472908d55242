import Filament.Proofs.Travel

/-!
The same motions, written in different ways.

A print selects tools and moves filament. A program may write a move as a length or as a position,
may name the position of the active tool anew, and may switch between lengths and positions;
`Writes` lists all that it can write down next. What the odometer counts is a matter of the motions
alone (`furthest_of_writes`), so two programs for the same motions leave the same extrusion for
every tool (`extrusion_same_however_written`). Numbers are those of exact arithmetic.
-/

namespace Filament

open Gcode

/-- What a print does with the filament. -/
inductive Motion (K : Type) where
  | select (tool : Nat)
  | extrude (amount : K)

/-- What the next line of a program has to go by: whether `E` values are lengths, which tool is
active, and at which position the program has left each tool. -/
structure Pen (K : Type) where
  relative : Bool
  tool : Nat
  position : Nat → K

variable {K : Type} [Field K] [LinearOrder K] [CircleRatio K]

namespace Pen

def start (relative : Bool) : Pen K where
  relative := relative
  tool := 0
  position _ := 0

/-- The `E` value that moves the active tool by an amount. -/
def value (p : Pen K) (amount : K) : K :=
  if p.relative then amount else p.position p.tool + amount

/-- The active tool is at another position. -/
def place (p : Pen K) (position : K) : Pen K :=
  { p with position := Function.update p.position p.tool position }

/-- The lines that write motions down. Positions may be named and the mode may be switched before
each motion and after the last one. Lines that do not concern the extruder may stand anywhere, and
G90 may where values are positions already. -/
inductive Writes : Pen K → List (Motion K) → List String → Prop where
  | done (p : Pen K) : Writes p [] []
  | select {p : Pen K} {tool : Nat} {motions : List (Motion K)} {line : String}
      {lines : List String}
      (hline : selected? line = some tool) (hrest : Writes { p with tool } motions lines) :
      Writes p (.select tool :: motions) (line :: lines)
  | extrude {p : Pen K} {amount : K} {motions : List (Motion K)} {line : String}
      {lines : List String} {e : Decimal} (hline : extruded? line = some e)
      (hvalue : Scalar.ofDecimal e = p.value amount)
      (hrest : Writes (p.place (p.position p.tool + amount)) motions lines) :
      Writes p (.extrude amount :: motions) (line :: lines)
  | name {p : Pen K} {motions : List (Motion K)} {line : String} {lines : List String} {e : Decimal}
      (hline : named? line = some e) (hrest : Writes (p.place (Scalar.ofDecimal e)) motions lines) :
      Writes p motions (line :: lines)
  | toPositions {p : Pen K} {motions : List (Motion K)} {line : String} {lines : List String}
      (hline : HasCode [('M', 82)] line)
      (hrest : Writes { p with relative := false } motions lines) : Writes p motions (line :: lines)
  | toLengths {p : Pen K} {motions : List (Motion K)} {line : String} {lines : List String}
      (hline : HasCode [('M', 83)] line)
      (hrest : Writes { p with relative := true } motions lines) : Writes p motions (line :: lines)
  | toMoves {p : Pen K} {motions : List (Motion K)} {line : String} {lines : List String}
      (hline : HasCode [('G', 90)] line) (hpositions : p.relative = false)
      (hrest : Writes p motions lines) : Writes p motions (line :: lines)
  | remark {p : Pen K} {motions : List (Motion K)} {line : String} {lines : List String}
      (hline : ofLine? line = none) (hrest : Writes p motions lines) :
      Writes p motions (line :: lines)

end Pen

/-! ## What motions come to -/

/-- The amounts that motions extrude with a tool, if `active` is the active one at first. -/
def amounts (tool active : Nat) : List (Motion K) → List K
  | [] => []
  | .select next :: motions => amounts tool next motions
  | .extrude amount :: motions =>
    if tool = active then amount :: amounts tool active motions else amounts tool active motions

/-- The largest of `best` and the sums that `total` grows to amount by amount. -/
def reach (total best : K) : List K → K
  | [] => best
  | amount :: rest => reach (total + amount) (max best (total + amount)) rest

/-- What is reached from zero is the largest sum of the first amounts. -/
theorem isGreatest_reach {total best : K} (h : total ≤ best) (list : List K) :
    IsGreatest {x | x = best ∨ ∃ n, x = total + (list.take n).sum} (reach total best list) := by
  induction list generalizing total best with
  | nil =>
    constructor
    · exact Or.inl rfl
    · rintro x (rfl | ⟨n, rfl⟩)
      · exact le_refl _
      · simpa [reach] using h
  | cons amount rest ih =>
    obtain ⟨hmem, hbound⟩ := ih (le_max_right best (total + amount))
    constructor
    · rcases hmem with hbest | ⟨n, hn⟩
      · rcases max_choice best (total + amount) with hmax | hmax
        · exact Or.inl (hbest.trans hmax)
        · exact Or.inr ⟨1, by simpa [reach] using hbest.trans hmax⟩
      · exact Or.inr ⟨n + 1, by simpa [reach, add_assoc] using hn⟩
    · rintro x (rfl | ⟨n, rfl⟩)
      · exact (le_max_left _ _).trans (hbound (Or.inl rfl))
      · cases n with
        | zero =>
          have hle : total ≤ reach (total + amount) (max best (total + amount)) rest :=
            h.trans ((le_max_left _ _).trans (hbound (Or.inl rfl)))
          simpa [reach] using hle
        | succ n =>
          have hle := hbound (Or.inr ⟨n, rfl⟩)
          simpa [reach, add_assoc] using hle

theorem isGreatest_reach_zero (list : List K) :
    IsGreatest {x | ∃ n, x = (list.take n).sum} (reach 0 0 list) := by
  obtain ⟨hmem, hbound⟩ := isGreatest_reach (le_refl (0 : K)) list
  constructor
  · rcases hmem with hzero | ⟨n, hn⟩
    · exact ⟨0, hzero⟩
    · exact ⟨n, hn.trans (zero_add _)⟩
  · rintro x ⟨n, rfl⟩
    exact hbound (Or.inr ⟨n, (zero_add _).symm⟩)

/-! ## The odometer -/

namespace Odometer

/-- The odometer stands where the pen does. Only the extruder's own mode may make values
relative. -/
structure Follows (o : Odometer K) (p : Pen K) : Prop where
  inRange : o.InRange
  relativeMode : o.relativeMode = false
  relativeExtrusion : o.relativeExtrusion = p.relative
  tool : o.tool = p.tool
  position : ∀ tool, (o.extruder tool).position = p.position tool

variable {o : Odometer K} {p : Pen K} {line : String}

theorem Follows.absoluteExtrusion_eq (h : o.Follows p) : o.absoluteExtrusion = !p.relative := by
  unfold absoluteExtrusion
  rw [h.relativeMode, h.relativeExtrusion]
  cases o.g90Influences <;> rfl

/-- The value that the pen writes moves the active tool by the amount that it is written for. -/
theorem Follows.extruder_extrude (h : o.Follows p) {e : Decimal} {amount : K}
    (hline : extruded? line = some e) (hvalue : Scalar.ofDecimal e = p.value amount) (tool : Nat) :
    (o.feedLine line).extruder tool =
      if tool = p.tool then (o.extruder tool).move amount else o.extruder tool := by
  rw [feedLine_of_ofLine? (ofLine?_of_extruded? hline)]
  show (o.modifyActive fun x => x.feed o.absoluteExtrusion (Scalar.ofDecimal e)).extruder tool = _
  rw [extruder_modifyActive h.inRange, h.tool]
  by_cases htool : tool = p.tool
  · have hamount : (if o.absoluteExtrusion = true then
        Scalar.ofDecimal e - (o.extruder tool).position else Scalar.ofDecimal e) = amount := by
      rw [h.absoluteExtrusion_eq, hvalue, h.position, htool, Pen.value]
      cases p.relative with
      | true => rfl
      | false =>
        show p.position p.tool + amount - p.position p.tool = amount
        rw [add_sub_cancel_left]
    rw [if_pos htool, if_pos htool, Extruder.feed, hamount]
  · rw [if_neg htool, if_neg htool]

theorem Follows.extruder_name (h : o.Follows p) {e : Decimal} (hline : named? line = some e)
    (tool : Nat) :
    (o.feedLine line).extruder tool =
      if tool = p.tool then { o.extruder tool with position := Scalar.ofDecimal e }
      else o.extruder tool := by
  rw [feedLine_of_ofLine? (ofLine?_of_named? hline)]
  show (o.modifyActive fun x => { x with position := Scalar.ofDecimal e }).extruder tool = _
  rw [extruder_modifyActive h.inRange, h.tool]

theorem Follows.select (h : o.Follows p) {next : Nat} (hline : selected? line = some next) :
    (o.feedLine line).Follows { p with tool := next } ∧
      ∀ tool, (o.feedLine line).extruder tool = o.extruder tool := by
  have hrange := inRange_feedLine h.inRange line
  rw [feedLine_of_ofLine? (ofLine?_of_selected? hline)] at hrange ⊢
  have hextruder : ∀ tool, (o.select next).extruder tool = o.extruder tool := extruder_select o next
  refine ⟨⟨hrange, h.relativeMode, h.relativeExtrusion, rfl, fun tool => ?_⟩, hextruder⟩
  show ((o.select next).extruder tool).position = p.position tool
  rw [hextruder, h.position]

theorem Follows.toPositions (h : o.Follows p) (hline : HasCode [('M', 82)] line) :
    (o.feedLine line).Follows { p with relative := false } ∧
      ∀ tool, (o.feedLine line).extruder tool = o.extruder tool := by
  rw [feedLine_of_ofLine? (ofLine?_of_modeCode.2.1 hline)]
  exact ⟨⟨h.inRange, h.relativeMode, rfl, h.tool, h.position⟩, fun _ => rfl⟩

theorem Follows.toLengths (h : o.Follows p) (hline : HasCode [('M', 83)] line) :
    (o.feedLine line).Follows { p with relative := true } ∧
      ∀ tool, (o.feedLine line).extruder tool = o.extruder tool := by
  rw [feedLine_of_ofLine? (ofLine?_of_modeCode.2.2 hline)]
  exact ⟨⟨h.inRange, h.relativeMode, rfl, h.tool, h.position⟩, fun _ => rfl⟩

/-- With the setting G90 makes values positions, so it changes nothing where they are. -/
theorem Follows.toMoves (h : o.Follows p) (hline : HasCode [('G', 90)] line)
    (hpositions : p.relative = false) :
    (o.feedLine line).Follows p ∧ ∀ tool, (o.feedLine line).extruder tool = o.extruder tool := by
  rw [feedLine_of_ofLine? (ofLine?_of_modeCode.1 hline)]
  refine ⟨⟨h.inRange, rfl, ?_, h.tool, h.position⟩, fun _ => rfl⟩
  show (if o.g90Influences = true then false else o.relativeExtrusion) = p.relative
  rw [h.relativeExtrusion, hpositions, ite_self]

theorem Follows.extrude (h : o.Follows p) {e : Decimal} {amount : K}
    (hline : extruded? line = some e) (hvalue : Scalar.ofDecimal e = p.value amount) :
    (o.feedLine line).Follows (p.place (p.position p.tool + amount)) := by
  have hrange := inRange_feedLine h.inRange line
  have hextruder := h.extruder_extrude hline hvalue
  rw [feedLine_of_ofLine? (ofLine?_of_extruded? hline)] at hrange hextruder ⊢
  refine ⟨hrange, h.relativeMode, h.relativeExtrusion, h.tool, fun other => ?_⟩
  rw [hextruder]
  by_cases hother : other = p.tool
  · subst hother
    simp [Extruder.move, Pen.place, h.position]
  · simp [hother, Pen.place, h.position]

theorem Follows.name (h : o.Follows p) {e : Decimal} (hline : named? line = some e) :
    (o.feedLine line).Follows (p.place (Scalar.ofDecimal e)) := by
  have hrange := inRange_feedLine h.inRange line
  have hextruder := h.extruder_name hline
  rw [feedLine_of_ofLine? (ofLine?_of_named? hline)] at hrange hextruder ⊢
  refine ⟨hrange, h.relativeMode, h.relativeExtrusion, h.tool, fun other => ?_⟩
  rw [hextruder]
  by_cases hother : other = p.tool
  · subst hother
    simp [Pen.place]
  · simp [hother, Pen.place, h.position]

/-- Only a motion changes what a tool has reached: the other lines leave the sums of its moves
alone. -/
theorem furthest_of_writes {motions : List (Motion K)} {lines : List String} (ho : o.Follows p)
    (h : p.Writes motions lines) (tool : Nat) :
    ((o.feedLines lines).extruder tool).furthest =
      reach (o.extruder tool).total (o.extruder tool).furthest (amounts tool p.tool motions) := by
  induction h generalizing o with
  | done p => rfl
  | @select p next motions line lines hline hrest ih =>
    obtain ⟨hnext, hextruder⟩ := ho.select hline
    have hlines := ih hnext
    rw [hextruder] at hlines
    exact hlines
  | @extrude p amount motions line lines e hline hvalue hrest ih =>
    have hlines := ih (ho.extrude hline hvalue)
    rw [ho.extruder_extrude hline hvalue] at hlines
    refine hlines.trans ?_
    by_cases htool : tool = p.tool
    · simp only [amounts, htool, if_true, reach, Extruder.move, Exact.larger_eq_max, Pen.place]
    · simp only [amounts, htool, if_false, Pen.place]
  | @name p motions line lines e hline hrest ih =>
    have hlines := ih (ho.name hline)
    rw [ho.extruder_name hline] at hlines
    refine hlines.trans ?_
    by_cases htool : tool = p.tool
    · simp only [htool, if_true, Pen.place]
    · simp only [htool, if_false, Pen.place]
  | @toPositions p motions line lines hline hrest ih =>
    obtain ⟨hnext, hextruder⟩ := ho.toPositions hline
    have hlines := ih hnext
    rw [hextruder] at hlines
    exact hlines
  | @toLengths p motions line lines hline hrest ih =>
    obtain ⟨hnext, hextruder⟩ := ho.toLengths hline
    have hlines := ih hnext
    rw [hextruder] at hlines
    exact hlines
  | @toMoves p motions line lines hline hpositions hrest ih =>
    obtain ⟨hnext, hextruder⟩ := ho.toMoves hline hpositions
    have hlines := ih hnext
    rw [hextruder] at hlines
    exact hlines
  | @remark p motions line lines hline hrest ih =>
    have hfed : o.feedLine line = o := by
      rw [feedLine_eq, hline]
      rfl
    have hlines := ih ho
    show ((feedLines (o.feedLine line) lines).extruder tool).furthest = _
    rw [hfed]
    exact hlines

theorem follows_start (g90Influences : Bool) :
    (start g90Influences : Odometer K).Follows (Pen.start false) := by
  refine ⟨inRange_start g90Influences, rfl, rfl, rfl, fun tool => ?_⟩
  rw [extruder_start]
  exact Exact.zero_eq

theorem extrusionFor_of_writes (g90Influences : Bool) {motions : List (Motion K)}
    {lines : List String} (h : (Pen.start false).Writes motions lines) (tool : Nat) :
    ((start g90Influences : Odometer K).feedLines lines).extrusionFor tool =
      reach 0 0 (amounts tool 0 motions) := by
  have hlines := furthest_of_writes (follows_start g90Influences) h tool
  rw [extruder_start] at hlines
  rw [extrusionFor_eq, hlines]
  show reach Scalar.zero Scalar.zero (amounts tool 0 motions) = _
  rw [Exact.zero_eq]

end Odometer

/-! ## Two programs -/

/-- However motions are written down, as lengths after M83 or as positions after G90 and M82, with
the positions named anew and the mode switched wherever the writer likes, the odometer counts the
same for every tool: the largest sum that the first amounts for the tool add up to. -/
theorem extrusion_same_however_written (g90Influences : Bool) (motions : List (Motion K))
    {toLengths toMoves toPositions : String} {relative absolute : List String}
    (hlengths : HasCode [('M', 83)] toLengths)
    (hrelative : (Pen.start true).Writes motions relative)
    (hmoves : HasCode [('G', 90)] toMoves) (hpositions : HasCode [('M', 82)] toPositions)
    (habsolute : (Pen.start false).Writes motions absolute) (tool : Nat) :
    let o : Odometer K := (Odometer.start g90Influences).feedLines (toLengths :: relative)
    let p : Odometer K :=
      (Odometer.start g90Influences).feedLines (toMoves :: toPositions :: absolute)
    o.extrusionFor tool = p.extrusionFor tool ∧
      IsGreatest {x | ∃ n, x = ((amounts tool 0 motions).take n).sum} (o.extrusionFor tool) := by
  intro o p
  have ho : o.extrusionFor tool = reach 0 0 (amounts tool 0 motions) :=
    Odometer.extrusionFor_of_writes g90Influences (.toLengths hlengths hrelative) tool
  have hp : p.extrusionFor tool = reach 0 0 (amounts tool 0 motions) :=
    Odometer.extrusionFor_of_writes g90Influences
      (.toMoves hmoves rfl (.toPositions hpositions habsolute)) tool
  rw [ho, hp]
  exact ⟨rfl, isGreatest_reach_zero (amounts tool 0 motions)⟩

/-- The first tool extrudes, the second extrudes and takes some of it back, and the first goes
on. -/
def twoToolMotions : List (Motion ℚ) :=
  [.extrude 5, .select 1, .extrude 2, .extrude (-1), .select 0, .extrude (3 / 2)]

theorem extrusion_same_two_tools :
    (Pen.start true).Writes twoToolMotions ["G1 E5", "T1", "G1 E2", "G1 E-1", "T0", "G1 E1.5"] ∧
    (Pen.start false).Writes twoToolMotions
      ["G1 E5", "T1", "G92 E10", "G1 E12", "M83", "G1 E-1", "M82", "T0", "G92 E0", "G1 E1.5"] ∧
    ((Odometer.start true : Odometer ℚ).feedLines
        ["M83", "G1 E5", "T1", "G1 E2", "G1 E-1", "T0", "G1 E1.5"]).extrusionFor 0 =
      ((Odometer.start true : Odometer ℚ).feedLines
        ["G90", "M82", "G1 E5", "T1", "G92 E10", "G1 E12", "M83", "G1 E-1", "M82", "T0", "G92 E0",
          "G1 E1.5"]).extrusionFor 0 := by
  have hrelative : (Pen.start true).Writes twoToolMotions
      ["G1 E5", "T1", "G1 E2", "G1 E-1", "T0", "G1 E1.5"] := by
    refine .extrude (e := ⟨false, 5, 0⟩) (by decide) ?_ <| .select (by decide) <|
      .extrude (e := ⟨false, 2, 0⟩) (by decide) ?_ <| .extrude (e := ⟨true, 1, 0⟩) (by decide) ?_ <|
      .select (by decide) <| .extrude (e := ⟨false, 15, -1⟩) (by decide) ?_ (.done _)
    all_goals norm_num [Scalar.ofDecimal, Pen.value, Pen.start, Pen.place]
  have habsolute : (Pen.start false).Writes twoToolMotions
      ["G1 E5", "T1", "G92 E10", "G1 E12", "M83", "G1 E-1", "M82", "T0", "G92 E0", "G1 E1.5"] := by
    refine .extrude (e := ⟨false, 5, 0⟩) (by decide) ?_ <| .select (by decide) <|
      .name (e := ⟨false, 10, 0⟩) (by decide) <|
      .extrude (e := ⟨false, 12, 0⟩) (by decide) ?_ <| .toLengths (by decide) <|
      .extrude (e := ⟨true, 1, 0⟩) (by decide) ?_ <| .toPositions (by decide) <|
      .select (by decide) <| .name (e := ⟨false, 0, 0⟩) (by decide) <|
      .extrude (e := ⟨false, 15, -1⟩) (by decide) ?_ (.done _)
    all_goals norm_num [Scalar.ofDecimal, Pen.value, Pen.start, Pen.place]
  exact ⟨hrelative, habsolute,
    (extrusion_same_however_written true twoToolMotions (by decide) hrelative
    (by decide) (by decide) habsolute 0).1⟩

end Filament
