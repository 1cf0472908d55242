import Filament.Text.Blank
import Filament.Text.Mark
import Filament.Text.Unassigned

/-!
Texts in quotes, as the event log shows them. Everything in the quotes is visible: controls, blanks
other than the space, marks, and code points that stand for no character are written as codes.
-/

namespace Filament
namespace Text

/-- The code points without a shape of their own: controls, format characters (general categories
Cc and Cf, Unicode 17), and the Hangul letters that only fill a place. -/
def shapelessRanges : CodeRanges :=
  [(0x0, 0x1F), (0x7F, 0x9F), (0xAD, 0xAD), (0x600, 0x605), (0x61C, 0x61C), (0x6DD, 0x6DD),
    (0x70F, 0x70F), (0x890, 0x891), (0x8E2, 0x8E2), (0x115F, 0x1160), (0x180E, 0x180E),
    (0x200B, 0x200F), (0x202A, 0x202E), (0x2060, 0x2064), (0x2066, 0x206F), (0x3164, 0x3164),
    (0xFEFF, 0xFEFF), (0xFFA0, 0xFFA0), (0xFFF9, 0xFFFB), (0x110BD, 0x110BD), (0x110CD, 0x110CD),
    (0x13430, 0x1343F), (0x1BCA0, 0x1BCA3), (0x1D173, 0x1D17A), (0xE0001, 0xE0001),
    (0xE0020, 0xE007F)]

/-- A character that a reader of the quoted text could miss or take for part of another one. -/
def isHidden (c : Char) : Bool :=
  shapelessRanges.has c || isBlank c && c != ' ' || isMark c || isUnassigned c

/-- The code of a character in lower case hexadecimal digits. -/
def codePoint (c : Char) : List Char := '\\' :: 'u' :: '\x7b' :: Nat.toDigits 16 c.toNat ++ ['\x7d']

/-- How a character stands between quotes. -/
def quotedChar (c : Char) : List Char :=
  if c = '"' ∨ c = '\\' then ['\\', c]
  else if c = '\n' then ['\\', 'n']
  else if c = '\r' then ['\\', 'r']
  else if c = '\t' then ['\\', 't']
  else if c = '\x00' then ['\\', '0']
  else if isHidden c then codePoint c
  else [c]

def quoted (s : String) : String := String.ofList ('"' :: s.toList.flatMap quotedChar ++ ['"'])

end Text
end Filament
