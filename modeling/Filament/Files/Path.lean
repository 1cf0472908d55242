/-!
Paths as texts. Names are divided by slashes; slashes and single dots at the end of a path do not
belong to its last name.
-/

namespace Filament
namespace Path

/-- The parts between the slashes of a path. -/
def parts (cs : List Char) : List (List Char) :=
  match cs with
  | [] => [[]]
  | c :: rest =>
    if c = '/' then [] :: parts rest
    else
      match parts rest with
      | p :: ps => (c :: p) :: ps
      | [] => [[c]]

/-- A path below a directory. The empty directory is the working directory. -/
def join (directory name : String) : String :=
  if directory.isEmpty || directory.endsWith "/" then directory ++ name
  else directory ++ "/" ++ name

/-- Drops slashes and single dots from the end, given backwards. The first character of a path is
never dropped. -/
def dropEnd : List Char → List Char
  | '/' :: c :: rest => dropEnd (c :: rest)
  | '.' :: '/' :: c :: rest => dropEnd (c :: rest)
  | cs => cs

/-- The last name of a path, what stands before it and what stands behind it. None if the path ends
in no name. -/
def splitName? (path : List Char) : Option (List Char × List Char × List Char) :=
  let backwards := dropEnd path.reverse
  let name := (backwards.takeWhile (· != '/')).reverse
  if name.isEmpty || name == ['.'] || name == ['.', '.'] then none
  else some ((backwards.dropWhile (· != '/')).reverse, name, path.drop backwards.length)

/-- A name without its extension, which starts at the last dot. A leading dot starts none. -/
def stem (name : List Char) : List Char :=
  match name.reverse.dropWhile (· != '.') with
  | _ :: c :: rest => (c :: rest).reverse
  | _ => name

/-- The path with the extension of its last name replaced. A path that ends in no name stays as it
is, and so does one that no longer ends in a name once the old extension is gone: a last name such
as `..x` leaves `..`, unless a slash behind it keeps it a name. -/
def withExtension (path extension : String) : String :=
  match splitName? path.toList with
  | some (before, name, behind) =>
    if stem name = ['.'] ∧ behind = [] then String.ofList (before ++ ['.', '.'])
    else String.ofList (before ++ stem name ++ '.' :: extension.toList)
  | none => path

end Path
end Filament
