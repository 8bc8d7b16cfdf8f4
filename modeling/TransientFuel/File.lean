/-!
# Files

What a path leads to: the bytes of a file, or the reason why there are none.
-/

namespace TransientFuel

/-- Why a path does not lead to the bytes of a file. -/
inductive FileFault where
  /-- There is nothing there. -/
  | missing
  /-- A name on the way, or before a final slash, is that of a file. -/
  | notDirectory
  /-- The path leads to a directory. -/
  | directory
  /-- A name, or the whole path, is too long. -/
  | tooLong
deriving DecidableEq, Repr

/-- The wording of a fault. -/
def FileFault.message : FileFault → String
  | .missing => "No such file or directory (os error 2)"
  | .notDirectory => "Not a directory (os error 20)"
  | .directory => "Is a directory (os error 21)"
  | .tooLong => "File name too long (os error 36)"

/-- What a file holds, as far as it can be read. -/
inductive FileContent where
  /-- The bytes of the file. -/
  | bytes (content : List UInt8)
  /-- The file cannot be opened, for a reason. -/
  | unopened (reason : String)
  /-- The file can be opened, but not be read, for a reason. -/
  | unreadable (reason : String)
deriving DecidableEq, Repr

namespace FileContent

/-- What is found where a fault keeps the bytes away; a directory can be opened all the same. -/
def ofFault : FileFault → FileContent
  | .directory => .unreadable FileFault.directory.message
  | fault => .unopened fault.message

end FileContent
end TransientFuel
