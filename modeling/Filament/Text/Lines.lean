/-!
The lines of a text. A line ends at a line feed, and a carriage return just before it belongs to the
line's end. A last line without an end counts unless it is empty.
-/

namespace Filament
namespace Text

/-- The finished lines, latest first, and the characters of the line being read, latest first. -/
structure LineState where
  done : List (List Char) := []
  current : List Char := []

namespace LineState

/-- A line without the carriage return of its end. -/
def finish : List Char → List Char
  | '\r' :: rest => rest.reverse
  | current => current.reverse

def step (s : LineState) (c : Char) : LineState :=
  if c = '\n' then { done := finish s.current :: s.done } else { s with current := c :: s.current }

def result (s : LineState) : List (List Char) :=
  if s.current.isEmpty then s.done.reverse else (s.current.reverse :: s.done).reverse

end LineState

def lineChars (cs : List Char) : List (List Char) := (cs.foldl LineState.step {}).result

def lines (s : String) : List String := (lineChars s.toList).map String.ofList

end Text
end Filament
