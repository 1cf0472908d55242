import Filament.Json.Token

/-!
Writing JSON text: the tokens of a value, and the blanks between them. A compact text has none; an
indented one puts every part of an array or object on a line of its own, two blanks deeper.
-/

namespace Filament
namespace Json

mutual

def tokens : Json → List Token
  | .string s => [.text s]
  | .array items => .openArray :: itemTokens items ++ [.closeArray]
  | .object fields => .openObject :: fieldTokens fields ++ [.closeObject]
  | v => [.scalar v]

def itemTokens : List Json → List Token
  | [] => []
  | v :: rest => tokens v ++ moreItems rest

def moreItems : List Json → List Token
  | [] => []
  | v :: rest => .comma :: tokens v ++ moreItems rest

def fieldTokens : List (Option String × Json) → List Token
  | [] => []
  | (k, v) :: rest => .text k :: .colon :: tokens v ++ moreFields rest

def moreFields : List (Option String × Json) → List Token
  | [] => []
  | (k, v) :: rest => .comma :: .text k :: .colon :: tokens v ++ moreFields rest

end

def compactChars (v : Json) : List Char := (tokens v).flatMap Token.chars

def compact (v : Json) : String := String.ofList (compactChars v)

def newLine (depth : Nat) : List Char := '\n' :: List.replicate (2 * depth) ' '

/-- The indented layout of a list of tokens. Empty arrays and objects stay on one line. -/
def layout : Nat → List Token → List Char
  | _, [] => []
  | depth, .openArray :: .closeArray :: rest => '[' :: ']' :: layout depth rest
  | depth, .openObject :: .closeObject :: rest => '\x7b' :: '\x7d' :: layout depth rest
  | depth, .openArray :: rest => '[' :: newLine (depth + 1) ++ layout (depth + 1) rest
  | depth, .openObject :: rest => '\x7b' :: newLine (depth + 1) ++ layout (depth + 1) rest
  | depth, .closeArray :: rest => newLine (depth - 1) ++ ']' :: layout (depth - 1) rest
  | depth, .closeObject :: rest => newLine (depth - 1) ++ '\x7d' :: layout (depth - 1) rest
  | depth, .comma :: rest => ',' :: newLine depth ++ layout depth rest
  | depth, .colon :: rest => ':' :: ' ' :: layout depth rest
  | depth, t :: rest => t.chars ++ layout depth rest

def indentedChars (v : Json) : List Char := layout 0 (tokens v)

def indented (v : Json) : String := String.ofList (indentedChars v)

end Json
end Filament
