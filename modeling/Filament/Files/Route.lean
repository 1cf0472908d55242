import Filament.Error
import Filament.Files.Path

/-!
Paths taken apart, and the texts that are no path.
-/

namespace Filament

/-- A path taken apart: the place it starts from, its names in order, and whether it ends in a
slash. -/
structure Route where
  start : List String
  names : List String
  slash : Bool

/-- The longest path, in bytes. -/
def maxPathSize : Nat := 4095

namespace Route

/-- The route of a path. The empty path leads nowhere. -/
def ofPath (path : String) : Except FileFault Route :=
  if path.toList.contains '\x00' then .error .nulInName
  else if path.isEmpty then .error .notFound
  else if maxPathSize < path.utf8ByteSize then .error .nameTooLong
  else .ok {
    start := if path.startsWith "/" then ["/"] else []
    names := ((Path.parts path.toList).filter (!·.isEmpty)).map String.ofList
    slash := path.endsWith "/" }

end Route

end Filament
