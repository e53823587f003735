import TapeMachine.Files.Path
import TapeMachine.SystemError
import TapeMachine.Text.Utf8

/-!
# File names and entries

A file name is a list of bytes, and under a file name stands a file, a directory or something that
belongs to the system.
-/

namespace TapeMachine

/-- A name in a directory. -/
abbrev FileName := List UInt8

/-- What is found under a name. -/
inductive FileEntry
  | file (content : List UInt8)
  | directory
  /-- A file or device of the system. It counts as empty, and what is written to it is lost, unless
  reading or writing it fails. -/
  | foreign (readError? writeError? : Option SystemError)
  /-- The name of a device that is not there. -/
  | absentDevice
deriving DecidableEq, Repr

namespace FileName

/-- The name by which a directory knows itself. -/
def self : FileName := Utf8.encodeString "."

/-- The name by which a directory knows the one above it. -/
def up : FileName := Utf8.encodeString ".."

/-- The byte between the names of a path. -/
def slash : UInt8 := 0x2F

/-- The names of a path, from the outermost directory inwards. -/
def ofPath (path : String) : List FileName :=
  namesBetween slash (Utf8.encodeString path)

end FileName

example : FileName.ofPath "/dev/null" = [[0x64, 0x65, 0x76], [0x6E, 0x75, 0x6C, 0x6C]] := by
  decide +kernel

end TapeMachine
