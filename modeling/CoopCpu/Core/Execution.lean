import CoopCpu.Core
import CoopCpu.Table.Encoding
/-!
# Core.Execution — how an instruction is carried out

`Action.perform` carries an instruction out piece by piece: it reads and writes registers, memory and program counters in
the order in which the processor does, and each of these pieces may end the instruction with a fault.  A fault undoes
nothing of what the pieces before it have changed.  `Core.fetchInstruction` finds the next instruction, and `Core.step` is
that instruction from fetch to its last change.
-/
namespace CoopCpu

namespace Byte

/-- A 16-bit number as a byte, if it is one. -/
def ofWord? (x : UInt16) : Option Byte := if x < 256 then some x.toUInt8 else none

/-- The sum of two bytes, if it is a byte. -/
def plus? (a b : Byte) : Option Byte := if a.toNat + b.toNat < 256 then some (a + b) else none

/-- The difference of two bytes, if it is a byte. -/
def minus? (a b : Byte) : Option Byte := if b ≤ a then some (a - b) else none

/-- The product of two bytes, if it is a byte. -/
def times? (a b : Byte) : Option Byte := if a.toNat * b.toNat < 256 then some (a * b) else none

end Byte

/-- A piece of an instruction.  What it has changed before a fault stays changed. -/
abbrev Action (α : Type) := ExceptT Fault (StateM Core) α

namespace Action

/-- The outcome of an action on a core, and the core after it. -/
def run {α : Type} (x : Action α) (c : Core) : Except Fault α × Core := StateT.run (ExceptT.run x) c

/-- Looks at the core; what it sees may be a fault. -/
def look {α : Type} (sight : Core → Except Fault α) : Action α := do
  match sight (← get) with
  | .ok value => return value
  | .error fault => throw fault

/-- The value of a register of the running thread. -/
def readRegister (code : Byte) : Action UInt16 := look fun c => c.register code

/-- The low byte of a register of the running thread. -/
def readLowByte (code : Byte) : Action Byte := look fun c => c.byteRegister code

/-- The value of a general register that is about to be changed. -/
def readGeneral (code : Byte) : Action Byte := look fun c => (Core.writable code).map c.activeSlot.register

def setRegister (code value : Byte) : Action Unit := do
  let r ← look fun _ => Core.writable code
  modify fun c => c.updateActive fun t => t.setRegister r value

def setFlags (change : Flags → Flags) : Action Unit :=
  modify fun c => c.updateActive fun t => { t with flags := change t.flags }

def setCounter (i : SlotIndex) (pc : Address) : Action Unit :=
  modify fun c => { c with slots := c.slots.update i fun t => { t with pc } }

def setActive (i : SlotIndex) : Action Unit := modify fun c => { c with active := i }

def readByte (a : Address) : Action Byte := look fun c => c.memory.read a

def writeByte (a : Address) (value : Byte) : Action Unit := do
  let memory ← look fun c => c.memory.write a value
  modify fun c => { c with memory }

def readBit (a : Address) (i : BitIndex) : Action Bool := look fun c => c.memory.readBit a i

def writeBit (a : Address) (i : BitIndex) (value : Bool) : Action Unit := do
  let memory ← look fun c => c.memory.writeBit a i value
  modify fun c => { c with memory }

/-- The running thread goes on at a target, if it may. -/
def jump (target : Address) : Action Unit := do
  look fun c => c.checkTarget target
  setCounter (← get).active target

/-- Replaces a general register by a function of its value. -/
def alter (code : Byte) (change : Byte → Byte) : Action Unit := do
  let value ← readGeneral code
  setRegister code (change value)

/-- Puts the result of a calculation into a general register; without a result the register stays and the overflow flag
is set. -/
def settle (code : Byte) : Option Byte → Action Unit
  | some value => do
    setRegister code value
    setFlags fun flags => { flags with overflow := false }
  | none => setFlags fun flags => { flags with overflow := true }

/-- Calculates with a general register. -/
def calculate (code : Byte) (result : Byte → Option Byte) : Action Unit := do
  let value ← readGeneral code
  settle code (result value)

/-- Carries out an instruction of the running thread. -/
def perform : Instruction → Action Unit
  | .halt => throw .haltInstruction
  | .yield => do
    let c ← get
    setActive (c.slots.nextRunnable c.active)
  | .stop => do
    let c ← get
    if c.slots.activeCount ≤ 1 then throw .onlyOneThreadActive
    setCounter c.active 0
    setActive (c.active + 1)
  | .spawn target => do
    look fun c => c.checkTarget target
    match (← get).slots.firstInactive with
    | none => throw .noInactiveThreads
    | some slot =>
      setCounter slot target
      setActive slot
  | .jump target => jump target
  | .jumpRegister code => do
    let target ← readRegister code
    jump target
  | .jumpIfZero code target => do
    let value ← readRegister code
    if value = 0 then jump target
  | .jumpUnlessZero code target => do
    let value ← readRegister code
    if value ≠ 0 then jump target
  | .load position code => do
    let value ← readByte position
    setRegister code value
  | .store code position => do
    let value ← readLowByte code
    writeByte position value
  | .loadIndirect source destination => do
    let position ← readRegister source
    let value ← readByte position
    setRegister destination value
  | .move source destination => do
    let value ← readLowByte source
    setRegister destination value
  | .setValue value code => setRegister code value
  | .add source destination => do
    let operand ← readRegister source
    calculate destination fun v => (Byte.ofWord? operand).bind fun x => Byte.plus? v x
  | .subtract source destination => do
    let operand ← readRegister source
    calculate destination fun v => (Byte.ofWord? operand).bind fun x => Byte.minus? v x
  | .increment code => calculate code fun v => Byte.plus? v 1
  | .decrement code => calculate code fun v => Byte.minus? v 1
  | .clear code => setRegister code 0
  | .shiftLeft code => calculate code fun v => Byte.times? v 2
  | .shiftRight code => calculate code fun v => some (v >>> 1)
  | .bitAnd source destination => do
    let value ← readLowByte source
    alter destination fun v => v &&& value
  | .bitOr source destination => do
    let value ← readLowByte source
    alter destination fun v => v ||| value
  | .bitXor source destination => do
    let value ← readLowByte source
    alter destination fun v => v ^^^ value
  | .bitNot code => alter code fun v => ~~~ v
  | .compare left right => do
    let l ← readRegister left
    let r ← readRegister right
    setFlags fun _ => Flags.ofCompare l r
  | .testAndSet position offset =>
    if h : offset.toNat < 8 then do
      let bit ← readBit position ⟨offset.toNat, h⟩
      setFlags fun _ => Flags.ofCompare bit.toUInt16 1
      writeBit position ⟨offset.toNat, h⟩ true
    else throw (.illegalBitOffset offset)

end Action

namespace Core

/-- The core after an instruction of the running thread, and the fault if the instruction ended with one. -/
def execute (c : Core) (i : Instruction) : Core × Option Fault :=
  match (Action.perform i).run c with
  | (.ok (), c') => (c', none)
  | (.error fault, c') => (c', some fault)

/-- The next instruction under a table, and the core whose program counter has moved on past it. -/
def fetchInstruction (t : Table) (c : Core) : Core × Except Fault Instruction :=
  match c.fetch with
  | (c', .ok position) => (c', t.decode c'.memory position)
  | (c', .error fault) => (c', .error fault)

/-- One instruction: fetched, decoded and executed. -/
def step (t : Table) (c : Core) : Core × Option Fault :=
  match c.fetchInstruction t with
  | (c', .ok i) => c'.execute i
  | (c', .error fault) => (c', some fault)

end Core
end CoopCpu
