import Filament.Consumption
import Filament.Decimal.Style

/-!
Lengths, masses and costs as the user sees them, with two places each.
-/

namespace Filament
namespace Display

/-- A length in mm, shown in metres. -/
def length (mm : Float) : String := Decimal.twoPlaces (mm / 1000) ++ "m"

def mass (grams : Float) : String := Decimal.twoPlaces grams ++ "g"

def cost (amount : Float) (symbol : String) : String := Decimal.twoPlaces amount ++ " " ++ symbol

/-- The filament that a tool needs: a dash for none, else the length, and the mass if one is known
and not zero. -/
def filament (mm : Float) (grams : Option Float) : String :=
  if mm == 0 || !mm.isFinite then "-"
  else
    match grams with
    | some g => if g == 0 then length mm else length mm ++ " / " ++ mass g
    | none => length mm

end Display

/-- The line of the sidebar about one tool. -/
def Consumption.display (c : Consumption Float) : String := Display.filament c.length (some c.mass)

/-- What is left on a spool, out of what a full one holds. -/
def Spool.displayRemaining (s : Spool Float) : String :=
  Display.mass s.remaining ++ " / " ++ Display.mass s.weight

end Filament
