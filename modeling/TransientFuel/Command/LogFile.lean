import TransientFuel.File.Tree
import TransientFuel.Settings

/-!
# Log files

A log is kept in a file that is there as soon as the log is set up, empty until the first record,
with all directories on the way to it. A log that is rotated begins a new file from time to time,
whose name depends on the clock; of such a log only the directories are certain.
-/

namespace TransientFuel

/-- Where a log is kept. -/
structure LogFile where
  /-- The directory. -/
  directory : String
  /-- The name in the directory. -/
  name : String
  /-- Whether a new file is begun from time to time. -/
  rotated : Bool
deriving DecidableEq, Repr

namespace LogFile

/-- The names in a path that lead somewhere else. -/
def steps (path : String) : List String :=
  (FileTree.names path).filter (· ≠ ".")

/-- The path of a directory with given names; the working directory if there are none. -/
def directoryPath (fromRoot : Bool) (names : List String) : String :=
  if fromRoot then "/" ++ "/".intercalate names
  else if names.isEmpty then "."
  else "/".intercalate names

/-- The log file at a path, if the path ends with a name. -/
def ofPath? (path : String) (rotated : Bool) : Option LogFile :=
  let names := steps path
  match names.getLast? with
  | none | some ".." => none
  | some name =>
    some ⟨directoryPath (path.toList.head? = some '/') names.dropLast, name, rotated⟩

/-- Whether a rotation begins new files. -/
def isRotated (rotation : Option String) : Bool :=
  rotation = some "daily" || rotation = some "hourly"

end LogFile

/-- The tree in which a log has been set up; as it is where that fails. -/
def FileTree.setUp (tree : FileTree) (log : LogFile) : FileTree :=
  if log.rotated then
    match tree.makeWay (tree.start log.directory) (FileTree.names log.directory) with
    | .ok (ready, _) => ready
    | .error _ => tree
  else
    match tree.create log.directory log.name [] with
    | .ok ready => ready
    | .error _ => tree

end TransientFuel
