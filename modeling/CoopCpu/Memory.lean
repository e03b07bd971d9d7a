import CoopCpu.Fault
/-!
# Memory — bytes that every thread shares

A memory is a row of bytes.  A new one holds at most 65536 of them, the number of 16-bit addresses; one that comes out
of a saved state may have any length.  Reading or writing at an address past the end is the fault `memoryOutOfBounds`
and changes nothing.  Single bits are reached through `readBit` and `writeBit`.
-/
namespace CoopCpu

/-- The bytes, by address. -/
structure Memory where
  bytes : Array Byte
  deriving DecidableEq

namespace Memory

/-- The number of 16-bit addresses. -/
def addressable : Nat := 65536

/-- Why an image cannot be placed in a memory. -/
inductive LoadError
  | tooLarge (image capacity : Nat)
  /-- Even an empty image has no place beyond the end. -/
  | startBeyondEnd
  deriving DecidableEq, Repr

def size (m : Memory) : Nat := m.bytes.size

/-- A memory of zeros, if its bytes can all be addressed. -/
def zeros? (size : Nat) : Option Memory :=
  if size ≤ addressable then some ⟨Array.replicate size 0⟩ else none

/-- The byte at an address, if the memory reaches that far. -/
def get? (m : Memory) (a : Address) : Option Byte := m.bytes[a.toNat]?

/-- The memory with the byte at an address replaced; an address past the end changes nothing. -/
def set (m : Memory) (a : Address) (value : Byte) : Memory := ⟨m.bytes.setIfInBounds a.toNat value⟩

/-- The memory with the byte at an address replaced, if the memory reaches that far. -/
def set? (m : Memory) (a : Address) (value : Byte) : Option Memory :=
  if a.toNat < m.size then some (m.set a value) else none

/-- The fault of an access to an address past the end. -/
def outOfBounds (a : Address) : Fault := .memoryOutOfBounds a.toUInt64

def read (m : Memory) (a : Address) : Except Fault Byte :=
  match m.get? a with
  | some b => .ok b
  | none => .error (outOfBounds a)

def write (m : Memory) (a : Address) (value : Byte) : Except Fault Memory :=
  match m.set? a value with
  | some m' => .ok m'
  | none => .error (outOfBounds a)

def readBit (m : Memory) (a : Address) (i : BitIndex) : Except Fault Bool :=
  (m.read a).map fun b => Byte.bit b i

/-- Sets or clears one bit and leaves the other seven alone. -/
def writeBit (m : Memory) (a : Address) (i : BitIndex) (value : Bool) : Except Fault Memory :=
  match m.read a with
  | .ok b => m.write a (Byte.withBit b i value)
  | .error f => .error f

/-- Places an image at an address; what lies before and after it stays. -/
def load (m : Memory) (start : Address) (image : Array Byte) : Except LoadError Memory :=
  let capacity := m.size - start.toNat
  if capacity < image.size then .error (.tooLarge image.size capacity)
  else if m.size < start.toNat then .error .startBeyondEnd
  else .ok ⟨m.bytes.extract 0 start.toNat ++ image ++ m.bytes.extract (start.toNat + image.size) m.size⟩

end Memory
end CoopCpu
