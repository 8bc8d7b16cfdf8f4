import TransientFuel.File

/-!
# Trees of files

Directories and files in memory. A path is followed name by name, from the working directory or, if
it begins with a slash, from the root. Each name but the last has to be that of a directory, and the
last one too if a slash stands behind it.
-/

namespace TransientFuel

/-- A place in a tree: the names on the way from the root, the last one first. -/
abbrev Location := List String

/-- What stands at a place. -/
inductive Entry where
  /-- A directory. -/
  | directory
  /-- A file with its bytes. -/
  | file (content : List UInt8)
deriving DecidableEq, Repr

/-- Directories and files, and the directory from which paths are followed. -/
structure FileTree where
  /-- What stands where; the root is not listed. -/
  entries : List (Location × Entry)
  /-- The working directory. -/
  working : Location

namespace FileTree

/-- The greatest length of a name in bytes. -/
def maxName : Nat := 255

/-- The greatest length of a path in bytes. -/
def maxPath : Nat := 4095

/-- The names in a path. -/
def names (path : String) : List String :=
  ((path.toList.splitOn '/').filter (· ≠ [])).map String.ofList

/-- Where a path begins. -/
def start (tree : FileTree) (path : String) : Location :=
  if path.toList.head? = some '/' then [] else tree.working

/-- What stands at a place. -/
def entry? (tree : FileTree) (location : Location) : Option Entry :=
  if location = [] then some .directory else tree.entries.lookup location

/-- The place that a name leads to from a directory, whether something stands there or not. -/
def enter (tree : FileTree) (location : Location) (name : String) : Except FileFault Location :=
  match tree.entry? location with
  | none => .error .missing
  | some (.file _) => .error .notDirectory
  | some .directory =>
    if name = "." then .ok location
    else if name = ".." then .ok location.tail
    else if name.utf8ByteSize > maxName then .error .tooLong
    else .ok (name :: location)

/-- The place that names lead to, whether something stands there or not. -/
def follow (tree : FileTree) : Location → List String → Except FileFault Location
  | location, [] => .ok location
  | location, name :: rest => do
    tree.follow (← tree.enter location name) rest

/-- What a path leads to. -/
def find (tree : FileTree) (path : String) : Except FileFault Entry := do
  if path.utf8ByteSize > maxPath then
    .error .tooLong
  else
    let location ← tree.follow (tree.start path) (names path)
    match tree.entry? location with
    | none => .error .missing
    | some .directory => return .directory
    | some (.file content) =>
      if path.toList.getLast? = some '/' then .error .notDirectory else return .file content

/-- What a path leads to, as far as it can be read. -/
def read (tree : FileTree) (path : String) : FileContent :=
  match tree.find path with
  | .ok (.file content) => .bytes content
  | .ok .directory => .ofFault .directory
  | .error fault => .ofFault fault

/-- The tree with an entry at a place where there is none; otherwise as it is. -/
def add (tree : FileTree) (location : Location) (entry : Entry) : FileTree :=
  match tree.entry? location with
  | none => { tree with entries := (location, entry) :: tree.entries }
  | some _ => tree

/-- Follows names and puts directories where there is nothing. -/
def makeWay (tree : FileTree) : Location → List String → Except FileFault (FileTree × Location)
  | location, [] => .ok (tree, location)
  | location, name :: rest => do
    let next ← tree.enter location name
    (tree.add next .directory).makeWay next rest

/-- The tree with a file of a given name in a directory, and all directories on the way to it. -/
def create (tree : FileTree) (directory name : String) (content : List UInt8) :
    Except FileFault FileTree := do
  let (ready, location) ← tree.makeWay (tree.start directory) (names directory)
  return ready.add (← ready.enter location name) (.file content)

end FileTree
end TransientFuel
