import Filament.Files.Route

/-!
A disk as data: a tree of directories and files.

Paths are followed name by name. Every place before the last has to be a directory. A path can also
end in no name at all: in `.`, in `..`, or at the root. It then leads to a directory that is there
already, which cannot be written, made or moved.
-/

namespace Filament

inductive Node where
  | directory
  | file (content : ByteArray)

def Node.isDirectory : Node → Bool
  | directory => true
  | file _ => false

/-- What stands at each place, a place being the names on the way from the working directory. A
function rather than a tree, because an operation changes one place and leaves all others. -/
structure Disk where
  node? : List String → Option Node

/-- The end of a path: a name, a name with slashes behind it, or no name. -/
inductive Ending where
  | name
  | slash
  | noName
deriving DecidableEq, Repr

/-- Where a path leads. The directory above is there, and the place itself if the path ends in no
name. -/
structure Place where
  names : List String
  ending : Ending

/-- The longest name, in bytes. -/
def maxNameSize : Nat := 255

namespace Disk

/-- Nothing but the working directory, those above it and the root. -/
def empty : Disk where
  node? place := if place.all fun name => name = ".." ∨ name = "/" then some .directory else none

def put (d : Disk) (place : List String) (node : Option Node) : Disk where
  node? p := if p = place then node else d.node? p

/-- The directory above another one. Above the root is the root. -/
def above (place : List String) : List String :=
  match place.getLast? with
  | none | some ".." => place ++ [".."]
  | some "/" => place
  | some _ => place.dropLast

/-- Follows the names from a directory. -/
def follow (d : Disk) (slash : Bool) (place : List String) : List String → Except FileFault Place
  | [] => .ok { names := place, ending := .noName }
  | name :: rest =>
    if name = "." then follow d slash place rest
    else if name = ".." then follow d slash (above place) rest
    else if maxNameSize < name.utf8ByteSize then .error .nameTooLong
    else if rest.isEmpty then
      .ok { names := place ++ [name], ending := if slash then .slash else .name }
    else
      match d.node? (place ++ [name]) with
      | some .directory => follow d slash (place ++ [name]) rest
      | some (.file _) => .error .notADirectory
      | none => .error .notFound

def resolve (d : Disk) (path : String) : Except FileFault Place := do
  let route ← Route.ofPath path
  d.follow route.slash route.start route.names

/-- What stands at the end of a path. Slashes behind a name ask for a directory. -/
def find (d : Disk) (path : String) : Except FileFault Node := do
  let place ← d.resolve path
  match d.node? place.names, place.ending with
  | some (.file _), .slash => throw .notADirectory
  | some node, _ => return node
  | none, _ => throw .notFound

def contains (d : Disk) (path : String) : Bool := (d.find path).isOk

/-- The bytes of a file. A directory has a small size of its own. -/
def size (d : Disk) (path : String) : Except FileFault Nat := do
  match ← d.find path with
  | .directory => return 0
  | .file content => return content.size

def read (d : Disk) (path : String) : Except FileFault String := do
  match ← d.find path with
  | .directory => throw .isADirectory
  | .file content =>
    match String.fromUTF8? content with
    | some text => return text
    | none => throw .notText

/-- The place where a file can be written, and what the file there holds. -/
def target (d : Disk) (path : String) : Except FileFault (List String × ByteArray) := do
  let place ← d.resolve path
  match place.ending, d.node? place.names with
  | .name, some (.file content) => return (place.names, content)
  | .name, none => return (place.names, .empty)
  | _, _ => throw .isADirectory

def write (d : Disk) (path : String) (content : ByteArray) : Except FileFault Disk :=
  return d.put (← d.target path).1 (some (.file content))

def append (d : Disk) (path : String) (content : ByteArray) : Except FileFault Disk := do
  d.write path ((← d.target path).2 ++ content)

/-- Moves a file to a place where no directory stands. -/
def move (d : Disk) (source target : String) : Except FileFault Disk := do
  let origin ← d.resolve source
  let goal ← d.resolve target
  if origin.ending = .noName ∨ goal.ending = .noName then throw .busy
  match d.node? origin.names, d.node? goal.names with
  | none, _ => throw .notFound
  | some .directory, _ => throw .isADirectory
  | some (.file content), there =>
    if origin.ending = .slash ∨ goal.ending = .slash then throw .notADirectory
    if there.any Node.isDirectory then throw .isADirectory
    return (d.put origin.names none).put goal.names (some (.file content))

/-- Makes a directory where nothing stands yet. -/
def makeDirectory (d : Disk) (start names : List String) : Except FileFault Disk := do
  let place ← d.follow false start names
  match place.ending, d.node? place.names with
  | .noName, _ | _, some _ => throw .alreadyExists
  | _, none => return d.put place.names (some .directory)

def isDirectory (d : Disk) (start names : List String) : Bool :=
  match d.follow false start names with
  | .ok place => (d.node? place.names).any Node.isDirectory
  | .error _ => false

/-- What making a directory comes to. One that is there already is as good as a new one. -/
def settle (d : Disk) (start names : List String) :
    Except FileFault Disk → Except FileFault Unit × Disk
  | .ok made => (.ok (), made)
  | .error fault => (if d.isDirectory start names then .ok () else .error fault, d)

/-- Makes a directory, given by its names backwards, and before it those above that are missing.
What has been made stays, also if the rest cannot be made. -/
def makeAll (d : Disk) (start : List String) : List String → Except FileFault Unit × Disk
  | [] => (.ok (), d)
  | name :: rest =>
    let names := (name :: rest).reverse
    match d.makeDirectory start names with
    | .error .notFound =>
      match makeAll d start rest with
      | (.ok (), d) => d.settle start names (d.makeDirectory start names)
      | failed => failed
    | done => d.settle start names done

/-- Makes a directory and those above it. The empty path needs none. -/
def makeDirectories (d : Disk) (path : String) : Except FileFault Unit × Disk :=
  if path.isEmpty then (.ok (), d)
  else
    match Route.ofPath path with
    | .ok route => d.makeAll route.start route.names.reverse
    | .error fault => (.error fault, d)

end Disk

end Filament
