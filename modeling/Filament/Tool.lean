import Filament.Text.Digit

/-!
Tools by number and by label. The host names a tool by a label with its number in it.
-/

namespace Filament
namespace Tool

/-- The tool that a label names: its first run of digits, or tool zero if it has none. A number that
does not fit a machine word names no tool. -/
def ofLabel? (label : String) : Option Nat :=
  let digits := Text.firstDigits label.toList
  if digits.isEmpty then some 0 else Text.word? digits

/-- The label under which a tool is reported. -/
def label (tool : Nat) : String := "tool" ++ Text.ofNat tool

end Tool
end Filament
