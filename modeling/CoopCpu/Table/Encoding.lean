import CoopCpu.Memory
import CoopCpu.Table
/-!
# Table.Encoding — instructions as bytes

Under a table, an instruction is written as the code of its operation followed by its operands in program order, a wide
one with its high byte first.  `Table.decode` reads the instruction that begins at an address, and `Table.encode` writes
one.  Positions are counted without bound, so the operands of an instruction at the top of the address space never come
from its bottom.
-/
namespace CoopCpu

/-- The byte at a position, which need not be an address. -/
def Memory.byteAt (m : Memory) (position : Nat) : Except Fault Byte :=
  if position < Memory.addressable then m.read (UInt16.ofNat position)
  else .error (.memoryOutOfBounds (UInt64.ofNat position))

namespace Width

/-- The number that stands at a position in this width. -/
def readAt (m : Memory) (position : Nat) : Width → Except Fault UInt16
  | .byte => do
    let b ← m.byteAt position
    return b.toUInt16
  | .word => do
    let high ← m.byteAt position
    let low ← m.byteAt (position + 1)
    return Byte.pair high low

/-- The bytes of a number in this width, if it fits. -/
def encode (value : UInt16) : Width → Option (List Byte)
  | .byte => if value < 256 then some [value.toUInt8] else none
  | .word => some [Address.high value, Address.low value]

end Width

namespace Layout

/-- The numbers that stand from a position on, one after another, in the widths of the layout. -/
def readAt (m : Memory) : (position : Nat) → Layout → Except Fault (List UInt16)
  | _, [] => return []
  | position, w :: rest => do
    let value ← w.readAt m position
    let values ← readAt m (position + w.size) rest
    return value :: values

/-- The bytes of the numbers in the widths of the layout, if there is one number for each and all of them fit. -/
def encode : Layout → List UInt16 → Option (List Byte)
  | [], [] => some []
  | w :: rest, value :: values => do
    let here ← w.encode value
    let there ← encode rest values
    return here ++ there
  | _, _ => none

end Layout

namespace Table

/-- The instruction that begins at an address. -/
def decode (t : Table) (m : Memory) (position : Address) : Except Fault Instruction := do
  let opcode ← m.read position
  match t.entry? opcode with
  | none => throw (.unknownOpcode opcode position)
  | some e =>
    let operands ← e.layout.readAt m (position.toNat + 1)
    return Instruction.ofOperands e.operation operands

/-- The bytes of an instruction, if the table knows its operation and its operands fit the layout given there. -/
def encode (t : Table) (i : Instruction) : Option (List Byte) := do
  let e ← t.entryFor? i.operation
  let operands ← e.layout.encode (i.operands.map Operand.raw)
  return e.code :: operands

end Table
end CoopCpu
