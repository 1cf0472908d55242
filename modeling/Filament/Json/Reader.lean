import Filament.Json.Token

/-!
Reading JSON text.

The reader is a machine over tokens. Between tokens it either waits for a value or has just
completed one, and a stack holds the arrays and objects that are still open. Each step takes at
least one token, which is the measure of the recursion.
-/

namespace Filament
namespace Json

/-- An array or object that is still open: its parts so far, latest first, and for an object the
name of the field whose value is being read. -/
inductive Frame where
  | array (items : List Json)
  | object (fields : List (Option String × Json)) (name : Option String)

/-- Runs the machine. The first argument is the value just completed, if there is one. -/
def assemble? : Option Json → List Frame → List Token → Option Json
  | none, stack, .openArray :: .closeArray :: rest => assemble? (some (.array [])) stack rest
  | none, stack, .openArray :: rest => assemble? none (.array [] :: stack) rest
  | none, stack, .openObject :: .closeObject :: rest => assemble? (some (.object [])) stack rest
  | none, stack, .openObject :: .text k :: .colon :: rest =>
    assemble? none (.object [] k :: stack) rest
  | none, stack, .text s :: rest => assemble? (some (.string s)) stack rest
  | none, stack, .scalar v :: rest => assemble? (some v) stack rest
  | some v, [], [] => some v
  | some v, .array items :: stack, .comma :: rest =>
    assemble? none (.array (v :: items) :: stack) rest
  | some v, .array items :: stack, .closeArray :: rest =>
    assemble? (some (.array (v :: items).reverse)) stack rest
  | some v, .object fields name :: stack, .comma :: .text k :: .colon :: rest =>
    assemble? none (.object ((name, v) :: fields) k :: stack) rest
  | some v, .object fields name :: stack, .closeObject :: rest =>
    assemble? (some (.object ((name, v) :: fields).reverse)) stack rest
  | _, _, _ => none

def ofTokens? (tokens : List Token) : Option Json := assemble? none [] tokens

/-- The value that a text holds; none if it is not JSON text. -/
def ofChars? (cs : List Char) : Option Json := (Token.scan cs).bind ofTokens?

def parse? (s : String) : Option Json := ofChars? s.toList

end Json
end Filament
