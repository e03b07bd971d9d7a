import CoopCpu.Core
import CoopCpu.Instruction
/-!
# Manual — what the instructions do, written over natural numbers

The manual describes a machine whose registers, counters and memory cells hold numbers, and says in one line for each
operation what becomes of them (`State.obey`).  Sums and differences are exact here and nothing wraps: a result that is
no byte is noticed by its size.  `none` stands for a halt.  `State.of` shows a core in the terms of the manual.
-/
namespace CoopCpu
namespace Manual

/-- What belongs to one thread. -/
structure Slot where
  pc : Nat
  register : Fin 8 → Nat
  equal : Bool
  less : Bool
  greater : Bool
  overflow : Bool

structure State where
  memory : List Nat
  slot : Fin 4 → Slot
  active : Fin 4
  base : Nat

namespace State

/-! ## Threads -/

def running (s : State) : Slot := s.slot s.active

/-- The state with one slot changed. -/
def change (s : State) (i : Fin 4) (f : Slot → Slot) : State :=
  { s with slot := fun j => if j = i then f (s.slot i) else s.slot j }

def live (s : State) (i : Fin 4) : Bool := (s.slot i).pc != 0

/-- How many slots have a nonzero program counter. -/
def liveCount (s : State) : Nat := (s.live 0).toNat + (s.live 1).toNat + (s.live 2).toNat + (s.live 3).toNat

/-- The number in which slot `i` counts `2 ^ i` if it is live. -/
def liveMask (s : State) : Nat :=
  (s.live 0).toNat + 2 * (s.live 1).toNat + 4 * (s.live 2).toNat + 8 * (s.live 3).toNat

/-- The next live slot in the circle, or the running one if no other is live. -/
def next (s : State) : Fin 4 :=
  if s.live (s.active + 1) then s.active + 1
  else if s.live (s.active + 2) then s.active + 2
  else if s.live (s.active + 3) then s.active + 3
  else s.active

/-- The lowest slot that is not live. -/
def vacant (s : State) : Option (Fin 4) :=
  if !s.live 0 then some 0 else if !s.live 1 then some 1 else if !s.live 2 then some 2 else if !s.live 3 then some 3
  else none

/-- The fetch: a slot that is not live gives way to the next one, and the counter moves on by 4 if it can.  The address of
the instruction comes with the state after it. -/
def fetch (s : State) : Option (Nat × State) :=
  let i := if s.live s.active then s.active else s.next
  let pc := (s.slot i).pc
  if pc = 0 ∨ 65535 < pc + 4 then none else some (pc, { s.change i fun t => { t with pc := pc + 4 } with active := i })

/-! ## Registers, flags and memory -/

/-- What the running thread reads in a register. -/
def read (s : State) (code : Nat) : Option Nat :=
  if h : code < 8 then some (s.running.register ⟨code, h⟩)
  else if code = 0x80 then some s.active.val
  else if code = 0x81 then some s.liveMask
  else if code = 0x82 then some s.running.pc
  else if code = 0x84 then some s.running.equal.toNat
  else if code = 0x85 then some s.running.greater.toNat
  else if code = 0x86 then some s.running.less.toNat
  else if code = 0x87 then some s.running.overflow.toNat
  else none

/-- The state with a general register replaced by a function of its value; no other register can be written. -/
def alter (s : State) (code : Nat) (f : Nat → Nat) : Option State :=
  if h : code < 8 then
    some (s.change s.active fun t =>
      { t with register := fun r => if r = ⟨code, h⟩ then f (t.register r) else t.register r })
  else none

def write (s : State) (code value : Nat) : Option State := s.alter code fun _ => value

def setOverflow (s : State) (value : Bool) : State := s.change s.active fun t => { t with overflow := value }

/-- A result that is a byte goes into the register and clears the overflow flag; any other sets the flag, and the register
stays. -/
def settle (s : State) (code : Nat) (result : Int) : Option State :=
  if 0 ≤ result ∧ result ≤ 255 then (s.write code result.toNat).map fun s' => s'.setOverflow false
  else some (s.setOverflow true)

/-- Calculates with a general register. -/
def calculate (s : State) (code : Nat) (result : Nat → Int) : Option State :=
  if h : code < 8 then s.settle code (result (s.running.register ⟨code, h⟩)) else none

/-- The flags after a comparison of two numbers. -/
def compare (s : State) (left right : Nat) : State :=
  s.change s.active fun t =>
    { t with equal := left == right, less := left < right, greater := right < left, overflow := false }

/-- What bit `o` of a byte weighs; bit 0 is the heaviest. -/
def weight (o : Nat) : Nat := Nat.pow 2 (7 - o)

def load (s : State) (a : Nat) : Option Nat := s.memory[a]?

def store (s : State) (a value : Nat) : Option State :=
  if a < s.memory.length then some { s with memory := s.memory.set a value } else none

/-- The running thread goes on at `target`, which may not be below the base. -/
def goto (s : State) (target : Nat) : Option State :=
  if target < s.base then none else some (s.change s.active fun t => { t with pc := target })

/-! ## The table of operations -/

/-- What becomes of the state, operation by operation. -/
def obey (s : State) : Instruction → Option State
  | .halt => none
  | .yield => some { s with active := s.next }
  | .stop =>
    if s.liveCount ≤ 1 then none
    else some { s.change s.active fun t => { t with pc := 0 } with active := s.active + 1 }
  | .spawn a =>
    if a.toNat < s.base then none
    else s.vacant.map fun i => { s.change i fun t => { t with pc := a.toNat } with active := i }
  | .jump a => s.goto a.toNat
  | .jumpRegister r => do s.goto (← s.read r.toNat)
  | .jumpIfZero r a => do if (← s.read r.toNat) = 0 then s.goto a.toNat else some s
  | .jumpUnlessZero r a => do if (← s.read r.toNat) ≠ 0 then s.goto a.toNat else some s
  | .load a r => do s.write r.toNat (← s.load a.toNat)
  | .store r a => do s.store a.toNat ((← s.read r.toNat) % 256)
  | .loadIndirect p r => do s.write r.toNat (← s.load (← s.read p.toNat))
  | .move x y => do s.write y.toNat ((← s.read x.toNat) % 256)
  | .setValue v r => s.write r.toNat v.toNat
  | .add x y => do
    let v ← s.read x.toNat
    s.calculate y.toNat fun w => w + v
  | .subtract x y => do
    let v ← s.read x.toNat
    s.calculate y.toNat fun w => w - v
  | .increment r => s.calculate r.toNat fun w => w + 1
  | .decrement r => s.calculate r.toNat fun w => w - 1
  | .clear r => s.write r.toNat 0
  | .shiftLeft r => s.calculate r.toNat fun w => 2 * w
  | .shiftRight r => s.calculate r.toNat fun w => w / 2
  | .bitAnd x y => do
    let v ← s.read x.toNat
    s.alter y.toNat fun w => w &&& v % 256
  | .bitOr x y => do
    let v ← s.read x.toNat
    s.alter y.toNat fun w => w ||| v % 256
  | .bitXor x y => do
    let v ← s.read x.toNat
    s.alter y.toNat fun w => w ^^^ v % 256
  | .bitNot r => s.alter r.toNat fun w => 255 - w
  | .compare x y => do return s.compare (← s.read x.toNat) (← s.read y.toNat)
  | .testAndSet a o =>
    if 7 < o.toNat then none
    else do
      let byte ← s.load a.toNat
      if byte / weight o.toNat % 2 = 1 then return s.compare 1 1
      else (s.compare 0 1).store a.toNat (byte + weight o.toNat)

end State

/-! ## A core in the terms of the manual -/

def Slot.of (t : ThreadSlot) : Slot where
  pc := t.pc.toNat
  register r := (t.register r).toNat
  equal := t.flags.equal
  less := t.flags.less
  greater := t.flags.greater
  overflow := t.flags.overflow

def State.of (c : Core) : State where
  memory := c.memory.bytes.toList.map UInt8.toNat
  slot i := Slot.of (c.slots.get i)
  active := c.active
  base := c.base.toNat

end Manual
end CoopCpu
