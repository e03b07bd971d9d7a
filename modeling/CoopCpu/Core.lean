import CoopCpu.Memory
import CoopCpu.Register
/-!
# Core — the state that instructions act on

The memory, the four slots, which of them runs, and the base offset below which no jump may go.  This module says what
a program reads in its registers and how the next instruction is fetched: if the running slot has become inactive the
next active one takes over (`handOver`), and its program counter moves on by the length of an instruction (`fetch`).
A counter that would pass the end of the address space is a fault and does not move.
-/
namespace CoopCpu

/-- The length of an instruction in memory. -/
def instructionSize : Nat := 4

structure Core where
  memory : Memory
  slots : Slots
  active : SlotIndex
  base : Address
  deriving DecidableEq

namespace Core

/-- A core whose only thread starts at the base offset. -/
def starting (memory : Memory) (base : Address) : Core :=
  { memory, slots := Slots.starting base, active := 0, base }

/-- The slot that runs. -/
def activeSlot (c : Core) : ThreadSlot := c.slots.get c.active

/-- The core with the running slot changed. -/
def updateActive (c : Core) (change : ThreadSlot → ThreadSlot) : Core :=
  { c with slots := c.slots.update c.active change }

/-! ## Registers -/

/-- What a register shows to the thread in slot `i`.  All but the program counter fit in a byte. -/
def registerValue (c : Core) (i : SlotIndex) : Register → UInt16
  | .general r => ((c.slots.get i).register r).toUInt16
  | .runningThread => UInt16.ofNat c.active.val
  | .activeSlots => c.slots.mask.toUInt16
  | .programCounter => (c.slots.get i).pc
  | .equalFlag => (c.slots.get i).flags.equal.toUInt16
  | .greaterFlag => (c.slots.get i).flags.greater.toUInt16
  | .lessFlag => (c.slots.get i).flags.less.toUInt16
  | .overflowFlag => (c.slots.get i).flags.overflow.toUInt16

/-- The value of the register with a code, as the thread in slot `i` sees it. -/
def registerOf (c : Core) (i : SlotIndex) (code : Byte) : Except Fault UInt16 :=
  match Register.ofCode? code with
  | some r => .ok (c.registerValue i r)
  | none => .error (.illegalRegisterRead code)

/-- The value of a register of the running thread. -/
def register (c : Core) (code : Byte) : Except Fault UInt16 := c.registerOf c.active code

/-- The low byte of a register of the running thread. -/
def byteRegister (c : Core) (code : Byte) : Except Fault Byte := (c.register code).map UInt16.toUInt8

/-- The general register a code stands for; no other can be written. -/
def writable (code : Byte) : Except Fault RegisterIndex :=
  match Register.general? code with
  | some r => .ok r
  | none => .error (.illegalRegisterWrite code)

/-- No thread may go below the base offset. -/
def checkTarget (c : Core) (target : Address) : Except Fault Unit :=
  if target < c.base then .error (.illegalJumpTarget target c.base) else .ok ()

/-! ## Fetching -/

/-- The next active slot takes over from a running slot that has become inactive. -/
def handOver (c : Core) : Core :=
  if c.activeSlot.isActive then c else { c with active := c.slots.nextRunnable c.active }

/-- The program counter of the running slot moves on by the length of an instruction. -/
def advance (c : Core) : Core := c.updateActive fun t => { t with pc := t.pc + UInt16.ofNat instructionSize }

/-- The slot whose instruction comes next. -/
def fetchedSlot (c : Core) : SlotIndex := c.handOver.active

/-- The address of the next instruction, and the core whose program counter has moved on past it. -/
def fetch (c : Core) : Core × Except Fault Address :=
  if c.slots.activeCount = 0 then (c, .error .noActiveThreads)
  else
    let c' := c.handOver
    let pc := c'.activeSlot.pc
    if pc.toNat + instructionSize < Memory.addressable then (c'.advance, .ok pc)
    else (c', .error (.programCounterOverflow pc))

end Core
end CoopCpu
