import CoopCpu.Core
import CoopCpu.Instruction
/-!
# Core.Effect — what an instruction comes to

An instruction either is refused with a fault or comes to one `Effect` on the core.  `Core.evaluate` says which:
it reads the registers and the memory it needs and checks everything that can go wrong, in the order in which the
faults are reported, and changes nothing.  `Core.apply` carries the effect out and cannot fail.  Calculations are on
natural numbers here and become bytes at the end.
-/
namespace CoopCpu

namespace Byte

/-- A number as a byte, if it is one. -/
def ofNat? (n : Nat) : Option Byte := if n < 256 then some (UInt8.ofNat n) else none

/-- The difference of two numbers as a byte, if it is one. -/
def difference? (n m : Nat) : Option Byte := if m ≤ n then ofNat? (n - m) else none

end Byte

/-- The one change that an instruction makes after the fetch. -/
inductive Effect
  | none
  /-- The running thread goes on elsewhere. -/
  | jump (target : Address)
  /-- The next active slot runs. -/
  | handOver
  /-- The running thread ends, and the slot after it is the one to look at next. -/
  | retire
  /-- A thread starts in an inactive slot, which runs. -/
  | start (slot : SlotIndex) (entry : Address)
  | setRegister (r : RegisterIndex) (value : Byte)
  /-- The outcome of a calculation: without a result the register stays and the overflow flag is set. -/
  | calculate (r : RegisterIndex) (result : Option Byte)
  | setFlags (flags : Flags)
  | store (position : Address) (value : Byte)
  /-- Flags and a byte of memory change together. -/
  | testAndSet (flags : Flags) (position : Address) (value : Byte)
  deriving DecidableEq

namespace Core

/-- The effect of a jump, if its target is allowed. -/
def jumpTo (c : Core) (target : Address) : Except Fault Effect := do
  c.checkTarget target
  return .jump target

/-- The effect of replacing a general register by a function of its value. -/
def calculation (c : Core) (code : Byte) (result : Byte → Option Byte) : Except Fault Effect := do
  let r ← writable code
  return .calculate r (result (c.activeSlot.register r))

/-- The effect of joining a byte to a general register bit by bit. -/
def bitwise (c : Core) (source destination : Byte) (join : Byte → Byte → Byte) : Except Fault Effect := do
  let value ← c.byteRegister source
  let r ← writable destination
  return .setRegister r (join (c.activeSlot.register r) value)

/-- What an instruction of the running thread comes to. -/
def evaluate (c : Core) : Instruction → Except Fault Effect
  | .halt => throw .haltInstruction
  | .yield => return .handOver
  | .stop => if c.slots.activeCount ≤ 1 then throw .onlyOneThreadActive else return .retire
  | .spawn target => do
    c.checkTarget target
    match c.slots.firstInactive with
    | some slot => return .start slot target
    | none => throw .noInactiveThreads
  | .jump target => c.jumpTo target
  | .jumpRegister register => do c.jumpTo (← c.register register)
  | .jumpIfZero register target => do if (← c.register register) = 0 then c.jumpTo target else return .none
  | .jumpUnlessZero register target => do if (← c.register register) = 0 then return .none else c.jumpTo target
  | .load position register => do
    let value ← c.memory.read position
    return .setRegister (← writable register) value
  | .store register position => do
    let value ← c.byteRegister register
    let _ ← c.memory.read position
    return .store position value
  | .loadIndirect source destination => do
    let value ← c.memory.read (← c.register source)
    return .setRegister (← writable destination) value
  | .move source destination => do
    let value ← c.byteRegister source
    return .setRegister (← writable destination) value
  | .setValue value register => return .setRegister (← writable register) value
  | .add source destination => do
    let x ← c.register source
    c.calculation destination fun v => Byte.ofNat? (v.toNat + x.toNat)
  | .subtract source destination => do
    let x ← c.register source
    c.calculation destination fun v => Byte.difference? v.toNat x.toNat
  | .increment register => c.calculation register fun v => Byte.ofNat? (v.toNat + 1)
  | .decrement register => c.calculation register fun v => Byte.difference? v.toNat 1
  | .clear register => return .setRegister (← writable register) 0
  | .shiftLeft register => c.calculation register fun v => Byte.ofNat? (v.toNat * 2)
  | .shiftRight register => c.calculation register fun v => Byte.ofNat? (v.toNat / 2)
  | .bitAnd source destination => c.bitwise source destination fun v x => v &&& x
  | .bitOr source destination => c.bitwise source destination fun v x => v ||| x
  | .bitXor source destination => c.bitwise source destination fun v x => v ^^^ x
  | .bitNot register => do
    let r ← writable register
    return .setRegister r (~~~ c.activeSlot.register r)
  | .compare left right => do
    let l ← c.register left
    let r ← c.register right
    return .setFlags (Flags.ofCompare l r)
  | .testAndSet position offset =>
    if h : offset.toNat < 8 then do
      let i : BitIndex := ⟨offset.toNat, h⟩
      let b ← c.memory.read position
      return .testAndSet (Flags.ofCompare (Byte.bit b i).toUInt16 1) position (Byte.withBit b i true)
    else throw (.illegalBitOffset offset)

/-- The core after an effect. -/
def apply (c : Core) : Effect → Core
  | .none => c
  | .jump target => c.updateActive fun t => { t with pc := target }
  | .handOver => { c with active := c.slots.nextRunnable c.active }
  | .retire => { c.updateActive fun t => { t with pc := 0 } with active := c.active + 1 }
  | .start slot entry =>
    { c with slots := c.slots.update slot fun t => { t with pc := entry }, active := slot }
  | .setRegister r value => c.updateActive fun t => t.setRegister r value
  | .calculate r (some value) =>
    c.updateActive fun t => { t.setRegister r value with flags := { t.flags with overflow := false } }
  | .calculate _ none => c.updateActive fun t => { t with flags := { t.flags with overflow := true } }
  | .setFlags flags => c.updateActive fun t => { t with flags }
  | .store position value => { c with memory := c.memory.set position value }
  | .testAndSet flags position value =>
    { c.updateActive fun t => { t with flags } with memory := c.memory.set position value }

end Core
end CoopCpu
