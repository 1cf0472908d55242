import Filament.Json.Basic

/-!
Records in JSON.

A record is an object whose known fields come once each, in any order and among unknown ones that
are passed over, or an array of its fields in the order of declaration. At the end of the array only
fields with a default may be missing.

A tagged record is one of several kinds. Its object names the kind in a field, and its array in the
first place. As the tag may come last, all other parts are buffered: they have to be sound, and
nested no deeper than the reader allows.
-/

namespace Filament
namespace Json

/-- The fields of a record that are given, and whether they were given by position. -/
structure Fields where
  positional : Bool
  entries : List (String × Json)

namespace Fields

/-- The known fields among those of an object. None if a name is no text, or if a known name comes
twice. -/
def named? (names : List String) : List (Option String × Json) → Option (List (String × Json))
  | [] => some []
  | (none, _) :: _ => none
  | (some k, v) :: rest => do
    let entries ← named? names rest
    if names.contains k then
      if (entries.lookup k).isSome then none else some ((k, v) :: entries)
    else some entries

/-- The fields of a record with the given field names. -/
def ofJson? (names : List String) : Json → Option Fields
  | .object fields => (named? names fields).map ({ positional := false, entries := · })
  | .array items =>
    if items.length ≤ names.length then some { positional := true, entries := names.zip items }
    else none
  | _ => none

/-- Like `ofJson?`, but an object has no unknown fields. -/
def ofJsonExact? (names : List String) (j : Json) : Option Fields :=
  match j with
  | .object fields =>
    if fields.all fun f => f.1.any names.contains then ofJson? names j else none
  | _ => ofJson? names j

def get? (f : Fields) (name : String) : Option Json := f.entries.lookup name

/-- A field that has to be there. -/
def required {α : Type} (f : Fields) (name : String) (read : Json → Option α) : Option α :=
  (f.get? name).bind read

/-- A field with a default. -/
def withDefault {α : Type} (f : Fields) (name : String) (default : α) (read : Json → Option α) :
    Option α :=
  match f.get? name with
  | some j => read j
  | none => some default

/-- A field that may be null, or be left out where fields go by name. -/
def nullable {α : Type} (f : Fields) (name : String) (read : Json → Option α) :
    Option (Option α) :=
  match f.get? name with
  | some j => option? read j
  | none => if f.positional then none else some none

end Fields

/-- The deepest nesting that a buffered value may have. -/
def maxHeight : Nat := 127

/-- The tag and the other parts of a tagged record that lies below `depth` arrays and objects. -/
def tagged? (tag : String) (depth : Nat) (j : Json) : Option (String × Json) :=
  if j.isSound && j.height + depth ≤ maxHeight then
    match j with
    | .object fields =>
      match fields.filter fun f => f.1 == some tag with
      | [(_, v)] => do
        return (← v.string?, .object (fields.filter fun f => f.1 != some tag))
      | _ => none
    | .array (v :: items) => do return (← v.string?, .array items)
    | _ => none
  else none

end Json
end Filament
