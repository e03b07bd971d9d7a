import CoopCpu.Config
import CoopCpu.Machine
import CoopCpu.Table.File
/-!
# Setup — a machine from its settings

`Config.machine` makes the memory, puts the image at the base offset and reads the instruction table.  An image that is
too long for the program's part of the memory is found first, then a memory that cannot be addressed, and the table's
own errors come last.
-/
namespace CoopCpu

/-- Reads a whole file by its path. -/
abbrev FileReader := String → Except FileError ByteArray

namespace Memory

/-- A memory of zeros. -/
def zeros (size : Nat) : Except SetupError Memory :=
  match zeros? size with
  | some m => .ok m
  | none => .error (.memoryTooLarge size)

/-- What an image that cannot be placed is reported as.  The loading of `Config.machine` never comes to it, since an image
for which the settings have room is always placed and no base offset lies beyond the end (`Config.load_of_room`); so the
words for a start beyond the end are reported nowhere. -/
def LoadError.toSetupError : LoadError → SetupError
  | .tooLarge image capacity => .imageTooLarge image capacity
  | .startBeyondEnd => .imageTooLarge 0 0

end Memory

namespace Config

/-- The instruction table the settings name. -/
def table (c : Config) (read : FileReader) : Except SetupError Table :=
  match c.tablePath with
  | none => .ok Table.builtIn
  | some path =>
    match read path with
    | .ok bytes => Table.ofFile bytes
    | .error e => .error (.file e)

/-- The machine the settings describe, with an image at its base offset. -/
def machine (c : Config) (read : FileReader) (image : Array Byte) : Except SetupError Machine := do
  if c.memorySize.toNat < image.size then throw (.imageTooLarge image.size c.memorySize.toNat)
  let empty ← Memory.zeros c.totalMemory
  let memory ← (empty.load c.base image).mapError Memory.LoadError.toSetupError
  let table ← c.table read
  return Machine.new memory c.base table

end Config
end CoopCpu
