import CoopCpu.Core
import CoopCpu.Table.Encoding
/-!
# Raw — registers and instructions where nothing is ruled out beforehand

A slot number below 4, a layout that its operation admits, a bit number below 8: the types of a core and of a table say
that an access with them cannot go wrong.  Here they are plain numbers, as a saved state and a table file give them, and
whatever could go wrong is looked at where it would: an index past the end, a sum or a shift out of range, a width that
is none.  Such a `Trap` is no fault of the program: it would end the processor itself.
-/
namespace CoopCpu

/-- What the processor would not survive. -/
inductive Trap
  | index (i length : Nat)
  | overflow (sum : Nat)
  | shift (amount : Nat)
  /-- An operand width other than one and two bytes. -/
  | width (w : Byte)
  deriving DecidableEq, Repr

/-- A value, unless a trap comes first. -/
abbrev Checked := Except Trap

/-- A value, unless a fault of the program or a trap comes first. -/
abbrev Reading := ExceptT Fault Checked

namespace Raw

/-! ## What is looked at -/

/-- The item at an index. -/
def item {α : Type} (items : List α) (i : Nat) : Checked α :=
  match items[i]? with
  | some a => .ok a
  | none => .error (.index i items.length)

/-- The items with the one at an index replaced. -/
def replace {α : Type} (items : List α) (i : Nat) (a : α) : Checked (List α) :=
  if i < items.length then .ok (items.set i a) else .error (.index i items.length)

/-- The first items. -/
def front {α : Type} (items : List α) (count : Nat) : Checked (List α) :=
  if count ≤ items.length then .ok (items.take count) else .error (.index count items.length)

/-- The sum of two numbers of a type with so many values. -/
def sum (values a b : Nat) : Checked Nat := if a + b < values then .ok (a + b) else .error (.overflow (a + b))

/-- A shift of a number of so many bits. -/
def shift (bits amount : Nat) : Checked Unit := if amount < bits then .ok () else .error (.shift amount)

/-- Goes on with a checked value. -/
def checked {α : Type} (x : Checked α) : Reading α := ExceptT.lift x

/-- Goes on unless there is a fault. -/
def faulting {α : Type} (x : Except Fault α) : Reading α := ExceptT.mk (.ok x)

/-! ## Slots -/

def slot (s : Slots) (i : Nat) : Checked ThreadSlot := item s.toList i

/-- The slots with one of them changed. -/
def updateSlot (s : Slots) (i : Nat) (change : ThreadSlot → ThreadSlot) : Checked Slots := do
  let t ← slot s i
  return s.setIfInBounds i (change t)

/-- The byte that shows the active slots of a list, the first of which has number `i`. -/
def maskFrom (i : Nat) (acc : Byte) : List ThreadSlot → Checked Byte
  | [] => .ok acc
  | t :: rest =>
    if t.isActive then do
      shift 8 i
      maskFrom (i + 1) (acc ||| 1 <<< UInt8.ofNat i) rest
    else maskFrom (i + 1) acc rest

def mask (s : Slots) : Checked Byte := maskFrom 0 0 s.toList

/-- How many bits of a byte are set. -/
def ones (b : Byte) : Nat := (List.range 8).countP b.toNat.testBit

/-- The first active slot at one of some distances from `start`, or `start` itself. -/
def nextFrom (s : Slots) (start : Nat) : (steps : List Nat) → Checked Nat
  | [] => .ok start
  | step :: steps => do
    let i := (← sum UInt64.size start step) % 4
    let t ← slot s i
    if t.isActive then return i else nextFrom s start steps

def nextRunnable (s : Slots) (start : Nat) : Checked Nat := nextFrom s start [1, 2, 3, 4]

def firstInactive (s : Slots) : Option Nat := s.toList.findIdx? fun t => !t.isActive

/-! ## Bits -/

def bitMask (offset : Byte) : Checked Byte := do
  shift 8 offset.toNat
  return (128 : Byte) >>> offset

def readBit (m : Memory) (a : Address) (offset : Byte) : Reading Bool := do
  let b ← faulting (m.read a)
  let mask ← checked (bitMask offset)
  return b &&& mask != 0

def writeBit (m : Memory) (a : Address) (offset : Byte) (value : Bool) : Reading Memory := do
  let b ← faulting (m.read a)
  let mask ← checked (bitMask offset)
  faulting (m.write a (if value then b ||| mask else b &&& ~~~ mask))

/-! ## Registers -/

/-- A core whose active slot may be any number. -/
structure Core where
  memory : Memory
  slots : Slots
  active : Nat
  base : Address
  deriving DecidableEq

namespace Core

def running (c : Core) : Checked ThreadSlot := slot c.slots c.active

def updateRunning (c : Core) (change : ThreadSlot → ThreadSlot) : Checked Core := do
  let slots ← updateSlot c.slots c.active change
  return { c with slots }

/-- The value of the register with a code, as the running thread sees it. -/
def register (c : Core) (code : Byte) : Reading UInt16 := do
  let t ← checked c.running
  if code ≤ 0x07 then
    let b ← checked (item t.registers.toList code.toNat)
    return b.toUInt16
  else if code = 0x80 then return UInt16.ofNat c.active
  else if code = 0x81 then
    let m ← checked (mask c.slots)
    return m.toUInt16
  else if code = 0x82 then return t.pc
  else if code = 0x84 then return t.flags.equal.toUInt16
  else if code = 0x85 then return t.flags.greater.toUInt16
  else if code = 0x86 then return t.flags.less.toUInt16
  else if code = 0x87 then return t.flags.overflow.toUInt16
  else throw (.illegalRegisterRead code)

/-- Which of the running thread's registers a code stands for; no other can be written. -/
def writable (c : Core) (code : Byte) : Reading Nat := do
  let t ← checked c.running
  if code.toNat < t.registers.toList.length then return code.toNat else throw (.illegalRegisterWrite code)

def checkTarget (c : Core) (target : Address) : Reading Unit :=
  if target < c.base then throw (.illegalJumpTarget target c.base) else return ()

end Core

/-! ## Instructions -/

/-- A record of a table with its operation.  The widths are any numbers. -/
structure Record where
  code : Byte
  operation : Operation
  widths : List Byte
  deriving DecidableEq

/-- The record of a definition, if its name is a mnemonic. -/
def Record.ofDefinition? (d : Definition) : Option Record :=
  (Operation.ofMnemonic? d.name).map fun op => ⟨d.code, op, d.widths⟩

def recordsOf (definitions : List Definition) : List Record := definitions.filterMap Record.ofDefinition?

/-- The number that stands at a position. -/
def operandAt (m : Memory) (position : Nat) (width : Byte) : Reading UInt16 :=
  if width = 1 then do
    let b ← faulting (m.byteAt position)
    return b.toUInt16
  else if width = 2 then do
    let high ← faulting (m.byteAt position)
    let low ← faulting (m.byteAt (← checked (sum UInt64.size position 1)))
    checked (shift 16 8)
    return Byte.pair high low
  else checked (.error (.width width))

/-- Puts the numbers from a position on into the places of an array, beginning with place `i`. -/
def operandsFrom (m : Memory) : (i position : Nat) → (array : List UInt16) → List Byte → Reading (List UInt16)
  | _, _, array, [] => return array
  | i, position, array, w :: rest => do
    let value ← operandAt m position w
    let array ← checked (replace array i value)
    let position ← checked (sum UInt64.size position w.toNat)
    operandsFrom m (i + 1) position array rest

/-- The instruction of an operation, whose operands are taken from where it expects them. -/
def build (op : Operation) (operands : List UInt16) : Checked Instruction := do
  let word (i : Nat) : Checked UInt16 := item operands i
  let byte (i : Nat) : Checked Byte := UInt16.toUInt8 <$> item operands i
  match op with
  | .halt => return .halt
  | .yield => return .yield
  | .stop => return .stop
  | .spawn => return .spawn (← word 0)
  | .jump => return .jump (← word 0)
  | .jumpRegister => return .jumpRegister (← byte 0)
  | .jumpIfZero => return .jumpIfZero (← byte 0) (← word 1)
  | .jumpUnlessZero => return .jumpUnlessZero (← byte 0) (← word 1)
  | .load => return .load (← word 0) (← byte 1)
  | .store => return .store (← byte 0) (← word 1)
  | .loadIndirect => return .loadIndirect (← byte 0) (← byte 1)
  | .move => return .move (← byte 0) (← byte 1)
  | .setValue => return .setValue (← byte 0) (← byte 1)
  | .add => return .add (← byte 0) (← byte 1)
  | .subtract => return .subtract (← byte 0) (← byte 1)
  | .increment => return .increment (← byte 0)
  | .decrement => return .decrement (← byte 0)
  | .clear => return .clear (← byte 0)
  | .shiftLeft => return .shiftLeft (← byte 0)
  | .shiftRight => return .shiftRight (← byte 0)
  | .bitAnd => return .bitAnd (← byte 0) (← byte 1)
  | .bitOr => return .bitOr (← byte 0) (← byte 1)
  | .bitXor => return .bitXor (← byte 0) (← byte 1)
  | .bitNot => return .bitNot (← byte 0)
  | .compare => return .compare (← byte 0) (← byte 1)
  | .testAndSet => return .testAndSet (← word 0) (← byte 1)

/-- The instruction that begins at an address.  Its operands pass through an array of three places. -/
def decode (records : List Record) (m : Memory) (position : Address) : Reading Instruction := do
  let opcode ← faulting (m.read position)
  match records.find? fun r => r.code == opcode with
  | none => throw (.unknownOpcode opcode position)
  | some r =>
    let start ← checked (sum UInt64.size position.toNat 1)
    let array ← operandsFrom m 0 start [0, 0, 0] r.widths
    let operands ← checked (front array r.widths.length)
    checked (build r.operation operands)

/-- The name of a register code in a listing. -/
def codeText (code : Byte) : Checked String :=
  if code ≤ 0x07 then do
    let letter ← sum UInt8.size 65 code.toNat
    return String.singleton (Char.ofNat letter)
  else return Register.codeText code

def operandText : Operand → Checked String
  | .register code => codeText code
  | operand => return operand.text

/-- The instruction as a line of a listing. -/
def text (i : Instruction) : Checked String := do
  match ← i.operands.mapM operandText with
  | [] => return i.operation.mnemonic
  | operands => return i.operation.mnemonic ++ " " ++ String.intercalate ", " operands

end Raw

/-- The core, without what its type says of the active slot. -/
def Core.raw (c : Core) : Raw.Core := ⟨c.memory, c.slots, c.active.val, c.base⟩

/-- The record that an entry comes from. -/
def Entry.record (e : Entry) : Raw.Record := ⟨e.code, e.operation, e.layout.numbers⟩

def Table.records (t : Table) : List Raw.Record := t.entries.map Entry.record

end CoopCpu
