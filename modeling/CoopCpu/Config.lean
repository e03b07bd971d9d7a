import CoopCpu.Byte
import CoopCpu.Json.Shape
import CoopCpu.SetupError
import CoopCpu.Text.Numeral
/-!
# Config — the settings of a machine

How much memory a program gets, where it begins, which instruction table it is written for, and where to save the final
state.  Three settings can be overridden by name; a base offset that is no 16-bit number is refused and then nothing is
changed.
-/
namespace CoopCpu

structure Config where
  /-- The bytes at and above the base offset. -/
  memorySize : UInt64
  /-- Where the image is loaded; no jump goes below. -/
  base : Address
  /-- The file of the instruction table; without one the table is the built-in one. -/
  tablePath : Option String
  /-- The file for the final state. -/
  dumpPath : Option String
  deriving DecidableEq, Repr

namespace Config

/-- The settings that hold unless they are changed. -/
def standard : Config := ⟨1024, 0x80, none, none⟩

/-- The standard settings with another memory size. -/
def ofSize (memorySize : UInt64) : Config := { standard with memorySize }

/-- All the bytes of the memory, those below the base offset included.  This is the sum of the two numbers however large it
is; what becomes of one from `2 ^ 64` on, which no machine word holds, is not followed. -/
def totalMemory (c : Config) : Nat := c.base.toNat + c.memorySize.toNat

/-! ## Overrides -/

def baseKey : String := "TCPU_BASE_OFFSET"
def tableKey : String := "TCPU_INSTRUCTION_SET"
def dumpKey : String := "TCPU_DUMP_STATE"

/-- The base offset that a setting spells. -/
def base? (value : String) : Option Address :=
  match Numeral.parse value with
  | .ok n => if n < 65536 then some (UInt16.ofNat n) else none
  | .error _ => none

/-- The base offset after the override, or what is wrong with it. -/
def overriddenBase (c : Config) (setting : String → Option String) : Except SetupError Address :=
  match setting baseKey with
  | none => .ok c.base
  | some value =>
    match base? value with
    | some base => .ok base
    | none => .error (.invalidSetting baseKey value)

/-- The settings with the overrides that are given. -/
def override (c : Config) (setting : String → Option String) : Except SetupError Config :=
  match c.overriddenBase setting with
  | .error e => .error e
  | .ok base =>
    .ok { c with
      base
      tablePath := (setting tableKey).or c.tablePath
      dumpPath := (setting dumpKey).or c.dumpPath }

/-- The overrides made in place, one after another.  One that is refused is the last, and undoes nothing of those before. -/
def overriding (setting : String → Option String) : ExceptT SetupError (StateM Config) Unit := do
  if let some value := setting baseKey then
    match base? value with
    | some base => modify fun c => { c with base }
    | none => throw (.invalidSetting baseKey value)
  if let some path := setting tableKey then
    modify fun c => { c with tablePath := some path }
  if let some path := setting dumpKey then
    modify fun c => { c with dumpPath := some path }

/-- How the overrides in place end, and the settings they leave. -/
def overrideInPlace (c : Config) (setting : String → Option String) : Except SetupError Unit × Config :=
  StateT.run (ExceptT.run (overriding setting)) c

/-! ## JSON form -/

def toJson (c : Config) : Json :=
  Json.ofMembers
    [("memory_size", Json.ofLong c.memorySize), ("base_offset", Json.ofWord c.base),
      ("instruction_set_path", Json.ofOption Json.ofString c.tablePath),
      ("dump_state_path", Json.ofOption Json.ofString c.dumpPath)]

/-- A field as it is given, or its standard value. -/
def field? {α : Type} (standard : α) (shape : Json → Option α) : Option Json → Option α
  | none => some standard
  | some j => shape j

/-- Every field may be left out and then has its standard value. -/
def ofJson? (j : Json) : Option Config := do
  match ← j.fields? ["memory_size", "base_offset", "instruction_set_path", "dump_state_path"] 0 with
  | [memorySize, base, tablePath, dumpPath] =>
    return {
      memorySize := ← field? standard.memorySize Json.long? memorySize
      base := ← field? standard.base Json.word? base
      tablePath := ← field? standard.tablePath (Json.option? Json.string?) tablePath
      dumpPath := ← field? standard.dumpPath (Json.option? Json.string?) dumpPath }
  | _ => none

def toText (c : Config) : String := c.toJson.render

def ofText? (text : String) : Option Config := do ofJson? (← Json.parse text)

end Config
end CoopCpu
