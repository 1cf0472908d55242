import Filament.Gcode
import Filament.Scalar
import Filament.Text.Lines

/-!
The filament odometer. It follows the extruder of every tool through a program and keeps the
furthest point that each has reached, so that a retraction at the end takes nothing back.
-/

namespace Filament

variable {α : Type}

/-- An extruder: its position as the program counts it, the sum of its moves, and the largest value
that sum has had. -/
structure Extruder (α : Type) where
  position : α
  total : α
  furthest : α

/-- The modes of the program, the active tool and the extruders of the tools up to the highest one
selected so far. With `g90Influences` the modes of moves also switch the extruder. -/
structure Odometer (α : Type) where
  g90Influences : Bool
  relativeMode : Bool
  relativeExtrusion : Bool
  tool : Nat
  extruders : List (Extruder α)

variable [Scalar α]

namespace Extruder

def rest : Extruder α where
  position := Scalar.zero
  total := Scalar.zero
  furthest := Scalar.zero

/-- Moves by a length, backwards if it is negative. -/
def move (x : Extruder α) (delta : α) : Extruder α :=
  let total := x.total + delta
  { position := x.position + delta, total, furthest := Scalar.larger x.furthest total }

/-- Moves as an `E` word says, by it or up to it. -/
def feed (x : Extruder α) (absolute : Bool) (e : α) : Extruder α :=
  x.move (if absolute then e - x.position else e)

end Extruder

namespace Odometer

def start (g90Influences : Bool) : Odometer α where
  g90Influences := g90Influences
  relativeMode := false
  relativeExtrusion := false
  tool := 0
  extruders := [Extruder.rest]

/-- Forgets everything but the setting, as at the start of a print. -/
def reset (o : Odometer α) : Odometer α := start o.g90Influences

def setG90Influences (o : Odometer α) (value : Bool) : Odometer α :=
  { o with g90Influences := value }

/-- Whether an `E` word is a position. -/
def absoluteExtrusion (o : Odometer α) : Bool :=
  if o.g90Influences then !o.relativeExtrusion else !o.relativeMode && !o.relativeExtrusion

def modifyActive (o : Odometer α) (f : Extruder α → Extruder α) : Odometer α :=
  { o with extruders := o.extruders.modify o.tool f }

/-- Makes a tool the active one; tools up to it that are not yet followed start at rest. -/
def select (o : Odometer α) (tool : Nat) : Odometer α :=
  { o with
    tool
    extruders := o.extruders ++ List.replicate (tool + 1 - o.extruders.length) Extruder.rest }

def step (o : Odometer α) : Gcode.Command → Odometer α
  | .extrude e => o.modifyActive fun x => x.feed o.absoluteExtrusion (Scalar.ofDecimal e)
  | .position e => o.modifyActive fun x => { x with position := Scalar.ofDecimal e }
  | .absoluteMode =>
    { o with
      relativeMode := false
      relativeExtrusion := if o.g90Influences then false else o.relativeExtrusion }
  | .relativeMode =>
    { o with
      relativeMode := true
      relativeExtrusion := if o.g90Influences then true else o.relativeExtrusion }
  | .absoluteExtrusion => { o with relativeExtrusion := false }
  | .relativeExtrusion => { o with relativeExtrusion := true }
  | .select tool => o.select tool

/-- Feeds a line of a program. -/
def feedLine (o : Odometer α) (line : String) : Odometer α :=
  match Gcode.ofLine? line with
  | some command => o.step command
  | none => o

/-- Feeds a whole program. -/
def feedProgram (o : Odometer α) (program : String) : Odometer α :=
  (Text.lines program).foldl feedLine o

/-- The furthest extrusion of every tool followed, in mm. -/
def extrusion (o : Odometer α) : List α := o.extruders.map Extruder.furthest

/-- The furthest extrusion of a tool, zero for one never selected. -/
def extrusionFor (o : Odometer α) (tool : Nat) : α :=
  match o.extruders[tool]? with
  | some x => x.furthest
  | none => Scalar.zero

end Odometer
end Filament
