import Filament.Files.Access
import Filament.Files.Disk

/-!
A machine as data: a disk, environment variables and a platform that do not change, and a clock that
stands still.
-/

namespace Filament

structure Machine where
  disk : Disk
  valueOf? : String → Option String
  platformDirectory? : Option String
  milliseconds : Nat

namespace Machine

/-- An operation on the disk. One that fails leaves the disk alone. -/
def onDisk (f : Disk → Except FileFault Disk) : StateM Machine (Except FileFault Unit) :=
  modifyGet fun machine =>
    match f machine.disk with
    | .ok disk => (.ok (), { machine with disk })
    | .error fault => (.error fault, machine)

instance : Files (StateM Machine) where
  pathExists path := return (← get).disk.contains path
  size path := return (← get).disk.size path
  read path := return (← get).disk.read path
  makeDirectories path := modifyGet fun machine =>
    let (result, disk) := machine.disk.makeDirectories path
    (result, { machine with disk })
  write path text := onDisk (·.write path text.toUTF8)
  append path text := onDisk (·.append path text.toUTF8)
  move source target := onDisk (·.move source target)

instance : Environment (StateM Machine) where
  valueOf? name := return (← get).valueOf? name
  platformDirectory? := return (← get).platformDirectory?
  milliseconds := return (← get).milliseconds

end Machine
end Filament
