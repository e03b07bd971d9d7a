import CoopCpu.Machine
import CoopCpu.Saved.Fault
/-!
# Saved.Snapshot — the JSON form of a machine's state

A snapshot is saved as nested records: the memory, the four slots with their registers and flags, the active slot, the
base offset, whether the machine is halted, and why.  Writing is compact; reading accepts every JSON text of that shape
in which the numbers fit.  `Machine.save` and `Machine.load` go from a machine to a text and back.
-/
namespace CoopCpu

namespace Memory

def toJson (m : Memory) : Json := Json.ofMembers [("bytes", .array (m.bytes.toList.map Json.ofByte))]

def ofJson? (j : Json) : Option Memory := do
  match ← j.record? ["bytes"] with
  | [some bytes] => return ⟨(← bytes.list? Json.byte?).toArray⟩
  | _ => none

end Memory

namespace Flags

def toJson (f : Flags) : Json :=
  Json.ofMembers [("eq", .bool f.equal), ("lt", .bool f.less), ("gt", .bool f.greater), ("overflow", .bool f.overflow)]

def ofJson? (j : Json) : Option Flags := do
  match ← j.record? ["eq", "lt", "gt", "overflow"] with
  | [some equal, some less, some greater, some overflow] =>
    return ⟨← equal.bool?, ← less.bool?, ← greater.bool?, ← overflow.bool?⟩
  | _ => none

end Flags

namespace ThreadSlot

def toJson (t : ThreadSlot) : Json :=
  Json.ofMembers
    [("pc", Json.ofWord t.pc), ("registers", .array (t.registers.toList.map Json.ofByte)), ("flags", t.flags.toJson)]

def ofJson? (j : Json) : Option ThreadSlot := do
  match ← j.record? ["pc", "registers", "flags"] with
  | [some pc, some registers, some flags] =>
    return ⟨← pc.word?, ← registers.vector? 8 Json.byte?, ← Flags.ofJson? flags⟩
  | _ => none

end ThreadSlot

namespace Snapshot

def toJson (s : Snapshot) : Json :=
  Json.ofMembers
    [("memory", s.memory.toJson), ("threads", .array (s.slots.toList.map ThreadSlot.toJson)),
      ("active_thread", Json.ofLong s.active), ("base_offset", Json.ofWord s.base), ("halted", .bool s.halted),
      ("halt_reason", Json.ofOption Fault.toJson s.reason)]

/-- The reason may be left out of an object, and is then absent. -/
def ofJson? (j : Json) : Option Snapshot := do
  match ← j.record? ["memory", "threads", "active_thread", "base_offset", "halted", "halt_reason"] with
  | [some memory, some threads, some active, some base, some halted, reason] =>
    return {
      memory := ← Memory.ofJson? memory
      slots := ← threads.vector? 4 ThreadSlot.ofJson?
      active := ← active.long?
      base := ← base.word?
      halted := ← halted.bool?
      reason := ← (reason.getD .null).option? Fault.ofJson? }
  | _ => none

/-- The snapshot as a JSON text. -/
def toText (s : Snapshot) : String := s.toJson.render

/-- The snapshot that a JSON text spells. -/
def ofText? (text : String) : Option Snapshot := do ofJson? (← Json.parse text)

end Snapshot

namespace Machine

/-- The state of the machine as a text. -/
def save (m : Machine) : String := m.snapshot.toText

/-- The machine in the state that a text spells, if it spells one. -/
def load? (m : Machine) (text : String) : Option Machine := (Snapshot.ofText? text).map m.restore

end Machine
end CoopCpu
