import CoopCpu.Memory
import Mathlib.Algebra.BigOperators.Fin
/-!
# Memory.BitTable — accesses to a memory, and to a plain table of bits

`Memory.perform` is one access to a memory: its answer, and the memory after it.  `BitTable.perform` is the same access to a
plain table of bits, in which bit `o` of byte `p` is entry `8 * p + o` and a byte is the sum of the weights of its bits.
`Access.performAll` makes one access after another, to either of them.
-/
namespace CoopCpu
namespace Memory

/-- What can be asked of a memory. -/
inductive Access
  | read (a : Address)
  | readBit (a : Address) (o : BitIndex)
  | write (a : Address) (value : Byte)
  | writeBit (a : Address) (o : BitIndex) (value : Bool)
  /-- Place an image. -/
  | load (start : Address) (image : Array Byte)

inductive Answer
  | done
  | byte (value : Nat)
  | bit (value : Bool)
  deriving DecidableEq, Repr

/-- Why an access is not made. -/
inductive Refusal
  | fault (fault : Fault)
  | load (error : LoadError)
  deriving DecidableEq

namespace Access

/-- The address of an access to a single byte or bit. -/
def address? : Access → Option Address
  | .read a | .readBit a _ | .write a _ | .writeBit a _ _ => some a
  | .load _ _ => none

/-- If an image is to be placed, there is a place for it among `n` bytes. -/
def Fits (n : Nat) : Access → Prop
  | .load start image => start.toNat + image.size ≤ n
  | _ => True

instance (n : Nat) : (access : Access) → Decidable (access.Fits n)
  | .load start image => inferInstanceAs (Decidable (start.toNat + image.size ≤ n))
  | .read _ | .readBit _ _ | .write _ _ | .writeBit _ _ _ => isTrue trivial

/-- The answers to accesses that are made one after another, and what they leave. -/
def performAll {σ : Type} (perform : σ → Access → Except Refusal Answer × σ) :
    σ → List Access → List (Except Refusal Answer) × σ
  | s, [] => ([], s)
  | s, access :: rest =>
    let others := performAll perform (perform s access).2 rest
    ((perform s access).1 :: others.1, others.2)

end Access

/-- A change that is refused leaves the memory as it was. -/
def settle (m : Memory) : Except Refusal Memory → Except Refusal Answer × Memory
  | .ok m' => (.ok .done, m')
  | .error refusal => (.error refusal, m)

def perform (m : Memory) : Access → Except Refusal Answer × Memory
  | .read a => (((m.read a).map fun b => .byte b.toNat).mapError .fault, m)
  | .readBit a o => (((m.readBit a o).map .bit).mapError .fault, m)
  | .write a value => m.settle ((m.write a value).mapError .fault)
  | .writeBit a o value => m.settle ((m.writeBit a o value).mapError .fault)
  | .load start image => m.settle ((m.load start image).mapError .load)

/-- The bits of a memory, counted from the first bit of its first byte. -/
def bit? (m : Memory) (i : Nat) : Option Bool :=
  m.bytes[i / 8]?.map fun b => Byte.bit b ⟨i % 8, Nat.mod_lt i (by decide)⟩

end Memory

/-- A plain table of the bits of `n` bytes. -/
abbrev BitTable (n : Nat) := Fin (8 * n) → Bool

namespace BitTable

open Memory (Access Answer Refusal)

variable {n : Nat}

/-- Where bit `o` of byte `p` stands. -/
def entry (p : Fin n) (o : BitIndex) : Fin (8 * n) := ⟨8 * p.val + o.val, by omega⟩

/-- The number that the eight bits of a byte stand for. -/
def value (t : BitTable n) (p : Fin n) : Nat := ∑ o : BitIndex, 2 ^ (7 - o.val) * (t (entry p o)).toNat

/-- The binary digit of a byte that is its bit `o`. -/
def digit (b : Byte) (o : Nat) : Bool := b.toNat.testBit (7 - o)

/-- The table with the eight entries of one byte replaced. -/
def setByte (t : BitTable n) (p : Fin n) (b : Byte) : BitTable n := fun i =>
  if i.val / 8 = p.val then digit b (i.val % 8) else t i

/-- The table with the entries of the bytes of an image replaced. -/
def setBytes (t : BitTable n) (start : Nat) (image : Array Byte) : BitTable n := fun i =>
  if start ≤ i.val / 8 then image[i.val / 8 - start]?.elim (t i) fun b => digit b (i.val % 8) else t i

/-- An access to a byte that the table has; any other is out of bounds. -/
def atByte (t : BitTable n) (a : Address) (access : Fin n → Except Refusal Answer × BitTable n) :
    Except Refusal Answer × BitTable n :=
  if h : a.toNat < n then access ⟨a.toNat, h⟩ else (.error (.fault (.memoryOutOfBounds a.toUInt64)), t)

def perform (t : BitTable n) : Access → Except Refusal Answer × BitTable n
  | .read a => t.atByte a fun p => (.ok (.byte (t.value p)), t)
  | .readBit a o => t.atByte a fun p => (.ok (.bit (t (entry p o))), t)
  | .write a b => t.atByte a fun p => (.ok .done, t.setByte p b)
  | .writeBit a o value => t.atByte a fun p => (.ok .done, Function.update t (entry p o) value)
  | .load start image => (.ok .done, t.setBytes start.toNat image)

end BitTable

namespace Memory

/-- The table of the bits of a memory. -/
def bits (m : Memory) : BitTable m.size := fun i => (m.bit? i).getD false

/-- The bits of the memory are those of the table. -/
structure Mirrors {n : Nat} (m : Memory) (t : BitTable n) : Prop where
  size : m.size = n
  bit : ∀ i : Fin (8 * n), m.bit? i = some (t i)

end Memory
end CoopCpu
