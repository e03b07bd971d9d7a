import CoopCpu.Machine
import CoopCpu.Raw
/-!
# Raw.Machine — the machine where nothing is ruled out beforehand

The actions, the instructions and the ticks of a machine once more, with the active slot as any number and the table as
any list of records.  A run either goes on for as long as it is asked to or stops at the first trap.
-/
namespace CoopCpu
namespace Raw

/-- A piece of an instruction.  A fault ends the instruction, a trap ends everything. -/
abbrev Action (α : Type) := ExceptT Fault (StateT Core Checked) α

namespace Action

/-- The outcome of an action on a core, and the core after it. -/
def run {α : Type} (x : Action α) (c : Core) : Checked (Except Fault α × Core) := StateT.run (ExceptT.run x) c

/-- Looks at the core; what it sees may be a fault. -/
def look {α : Type} (sight : Core → Reading α) : Action α :=
  ExceptT.mk fun c => do
    let outcome ← (sight c).run
    return (outcome, c)

/-- Goes on with a checked value. -/
def ensure {α : Type} (x : Checked α) : Action α := look fun _ => checked x

def change (f : Core → Checked Core) : Action Unit :=
  ExceptT.mk fun c => do
    let c' ← f c
    return (.ok (), c')

/-! ## Pieces of instructions -/

def readRegister (code : Byte) : Action UInt16 := look fun c => c.register code

def readLowByte (code : Byte) : Action Byte := look fun c => UInt16.toUInt8 <$> c.register code

/-- The value of a general register that is about to be changed. -/
def readGeneral (code : Byte) : Action Byte := look fun c => do
  let r ← c.writable code
  let t ← checked c.running
  checked (item t.registers.toList r)

def setRegister (code value : Byte) : Action Unit := do
  let r ← look fun c => c.writable code
  change fun c => c.updateRunning fun t => { t with registers := t.registers.setIfInBounds r value }

def setFlags (f : Flags → Flags) : Action Unit := change fun c => c.updateRunning fun t => { t with flags := f t.flags }

def setCounter (i : Nat) (pc : Address) : Action Unit := change fun c => do
  let slots ← updateSlot c.slots i fun t => { t with pc }
  return { c with slots }

def setActive (i : Nat) : Action Unit := change fun c => return { c with active := i }

def readByte (a : Address) : Action Byte := look fun c => faulting (c.memory.read a)

def setMemory (memory : Memory) : Action Unit := change fun c => return { c with memory }

def writeByte (a : Address) (value : Byte) : Action Unit := do
  let memory ← look fun c => faulting (c.memory.write a value)
  setMemory memory

def readBit (a : Address) (offset : Byte) : Action Bool := look fun c => Raw.readBit c.memory a offset

def writeBit (a : Address) (offset : Byte) (value : Bool) : Action Unit := do
  let memory ← look fun c => Raw.writeBit c.memory a offset value
  setMemory memory

def jump (target : Address) : Action Unit := do
  look fun c => c.checkTarget target
  setCounter (← get).active target

def alter (code : Byte) (f : Byte → Byte) : Action Unit := do
  let value ← readGeneral code
  setRegister code (f value)

def settle (code : Byte) : Option Byte → Action Unit
  | some value => do
    setRegister code value
    setFlags fun flags => { flags with overflow := false }
  | none => setFlags fun flags => { flags with overflow := true }

def calculate (code : Byte) (result : Byte → Checked (Option Byte)) : Action Unit := do
  let value ← readGeneral code
  let outcome ← ensure (result value)
  settle code outcome

/-- Carries out an instruction of the running thread. -/
def perform : Instruction → Action Unit
  | .halt => throw .haltInstruction
  | .yield => do
    let c ← get
    let next ← ensure (nextRunnable c.slots c.active)
    setActive next
  | .stop => do
    let c ← get
    let runnable ← ensure (mask c.slots)
    if ones runnable ≤ 1 then throw .onlyOneThreadActive
    setCounter c.active 0
    let next ← ensure (sum UInt64.size c.active 1)
    setActive (next % 4)
  | .spawn target => do
    look fun c => c.checkTarget target
    match firstInactive (← get).slots with
    | none => throw .noInactiveThreads
    | some slot =>
      setCounter slot target
      setActive slot
  | .jump target => jump target
  | .jumpRegister code => do
    let target ← readRegister code
    jump target
  | .jumpIfZero code target => do
    let value ← readRegister code
    if value = 0 then jump target
  | .jumpUnlessZero code target => do
    let value ← readRegister code
    if value ≠ 0 then jump target
  | .load position code => do
    let value ← readByte position
    setRegister code value
  | .store code position => do
    let value ← readLowByte code
    writeByte position value
  | .loadIndirect source destination => do
    let position ← readRegister source
    let value ← readByte position
    setRegister destination value
  | .move source destination => do
    let value ← readLowByte source
    setRegister destination value
  | .setValue value code => setRegister code value
  | .add source destination => do
    let operand ← readRegister source
    calculate destination fun v => .ok ((Byte.ofWord? operand).bind fun x => Byte.plus? v x)
  | .subtract source destination => do
    let operand ← readRegister source
    calculate destination fun v => .ok ((Byte.ofWord? operand).bind fun x => Byte.minus? v x)
  | .increment code => calculate code fun v => .ok (Byte.plus? v 1)
  | .decrement code => calculate code fun v => .ok (Byte.minus? v 1)
  | .clear code => setRegister code 0
  | .shiftLeft code => calculate code fun v => .ok (Byte.times? v 2)
  | .shiftRight code => calculate code fun v => do
    shift 8 1
    return some (v >>> 1)
  | .bitAnd source destination => do
    let value ← readLowByte source
    alter destination fun v => v &&& value
  | .bitOr source destination => do
    let value ← readLowByte source
    alter destination fun v => v ||| value
  | .bitXor source destination => do
    let value ← readLowByte source
    alter destination fun v => v ^^^ value
  | .bitNot code => alter code fun v => ~~~ v
  | .compare left right => do
    let l ← readRegister left
    let r ← readRegister right
    setFlags fun _ => Flags.ofCompare l r
  | .testAndSet position offset =>
    if 7 < offset then throw (.illegalBitOffset offset)
    else do
      let bit ← readBit position offset
      setFlags fun _ => Flags.ofCompare bit.toUInt16 1
      writeBit position offset true

/-! ## Steps -/

/-- The next active slot takes over from a running slot that has become inactive. -/
def handOver : Action Unit := do
  let c ← get
  let t ← ensure c.running
  if !t.isActive then
    let next ← ensure (nextRunnable c.slots c.active)
    setActive next

/-- The address of the next instruction; the program counter moves on past it. -/
def fetch : Action Address := do
  let runnable ← ensure (mask (← get).slots)
  if runnable = 0 then throw .noActiveThreads
  handOver
  let c ← get
  let t ← ensure c.running
  if t.pc.toNat + instructionSize < Memory.addressable then
    setCounter c.active (t.pc + UInt16.ofNat instructionSize)
    return t.pc
  else throw (.programCounterOverflow t.pc)

/-- One instruction: fetched, decoded, listed and executed.  The slot that it was fetched for is shown once it is done. -/
def step (records : List Record) : Action Unit := do
  let position ← fetch
  let thread := (← get).active
  let i ← look fun c => decode records c.memory position
  let _ ← ensure (text i)
  perform i
  let _ ← ensure (slot (← get).slots thread)

end Action

/-! ## Machines -/

/-- A machine under any list of records. -/
structure Machine where
  core : Core
  halted : Bool
  reason : Option Fault
  records : List Record
  devices : List Device
  deriving DecidableEq

namespace Machine

def halt (m : Machine) (fault : Fault) : Machine :=
  if m.halted then m else { m with halted := true, reason := some fault }

/-- Serves the devices once.  Their locations wrap around, and every byte they come by is asked for by address. -/
def serviceDevices (m : Machine) : Machine :=
  let (memory, devices, fault) := Device.serviceAll m.core.memory m.devices
  let m' := { m with core := { m.core with memory }, devices }
  match fault with
  | none => m'
  | some f => m'.halt f

def tick (m : Machine) : Checked Machine :=
  if m.halted then return m
  else do
    let (outcome, core) ← (Action.step m.records).run m.core
    let m' := { m with core }
    match outcome with
    | .error fault => return m'.halt fault
    | .ok () => return m'.serviceDevices

/-- Takes over all of a snapshot, whatever it holds; the number of the active slot counts modulo 4. -/
def restore (m : Machine) (s : Snapshot) : Machine :=
  { m with
    core := ⟨s.memory, s.slots, s.active.toNat % 4, s.base⟩
    halted := s.halted
    reason := s.reason }

/-- The machine that the tick of a number finds among the devices that each tick finds. -/
def runIn (w : Nat → Machine → List Device) (m : Machine) : Nat → Checked Machine
  | 0 => return { m with devices := w 0 m }
  | n + 1 => do
    let m' ← (← runIn w m n).tick
    return { m' with devices := w (n + 1) m' }

end Machine
end Raw

/-- The machine, without what its types say of it. -/
def Machine.raw (m : Machine) : Raw.Machine := ⟨m.core.raw, m.halted, m.reason, m.table.records, m.devices⟩

end CoopCpu
