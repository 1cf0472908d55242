import Filament.Error

/-!
What the program needs of the machine it runs on: files, environment variables and a clock. The
program is written for any such machine.
-/

namespace Filament

/-- Files by path. `write` creates the file or replaces what it holds, `append` creates it or adds
to its end, and `move` puts one file in the place of another in a single step. -/
class Files (m : Type → Type) where
  pathExists : (path : String) → m Bool
  size : (path : String) → m (Except FileFault Nat)
  read : (path : String) → m (Except FileFault String)
  makeDirectories : (path : String) → m (Except FileFault Unit)
  write : (path text : String) → m (Except FileFault Unit)
  append : (path text : String) → m (Except FileFault Unit)
  move : (source target : String) → m (Except FileFault Unit)

class Environment (m : Type → Type) where
  valueOf? : (name : String) → m (Option String)
  /-- Where the platform has the settings of a user for whom no variable says so. -/
  platformDirectory? : m (Option String)
  milliseconds : m Nat

end Filament
