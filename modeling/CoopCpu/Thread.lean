import CoopCpu.Byte
/-!
# Thread — four slots that take turns

A slot holds a program counter, eight registers and the flags of its last comparison.  A slot whose program counter is
0 is inactive: it is never fetched, and a new thread may be put there.  The next slot to run is the first active one
after the present one, in a circle (`Slots.nextRunnable`).
-/
namespace CoopCpu

/-- The outcome of the last comparison, and whether the last arithmetic left the range of a byte. -/
structure Flags where
  equal : Bool
  less : Bool
  greater : Bool
  overflow : Bool
  deriving DecidableEq, Repr

namespace Flags

def clear : Flags := ⟨false, false, false, false⟩

/-- The flags after comparing two unsigned numbers. -/
def ofCompare (left right : UInt16) : Flags :=
  { equal := left == right, less := left < right, greater := left > right, overflow := false }

end Flags

/-- The number of a slot. -/
abbrev SlotIndex := Fin 4

/-- There is a slot, so the numerals name slots. -/
instance SlotIndex.neZero : @NeZero Nat Zero.ofOfNat0 4 := ⟨Nat.succ_ne_zero 3⟩

/-- The number of a general register, `A` being 0 and `H` being 7. -/
abbrev RegisterIndex := Fin 8

/-- What belongs to one thread alone. -/
structure ThreadSlot where
  pc : Address
  registers : Vector Byte 8
  flags : Flags
  deriving DecidableEq, Repr

namespace ThreadSlot

def empty : ThreadSlot := ⟨0, Vector.replicate 8 0, Flags.clear⟩

def isActive (t : ThreadSlot) : Bool := t.pc != 0

def register (t : ThreadSlot) (r : RegisterIndex) : Byte := t.registers.get r

def setRegister (t : ThreadSlot) (r : RegisterIndex) (value : Byte) : ThreadSlot :=
  { t with registers := t.registers.set r value }

end ThreadSlot

/-- The four slots. -/
abbrev Slots := Vector ThreadSlot 4

namespace Slots

/-- The slots with one of them changed. -/
def update (s : Slots) (i : SlotIndex) (change : ThreadSlot → ThreadSlot) : Slots :=
  s.set i (change (s.get i))

/-- The slots of a machine that starts at `entry`: the first one holds the only thread. -/
def starting (entry : Address) : Slots :=
  (Vector.replicate 4 ThreadSlot.empty).set 0 { ThreadSlot.empty with pc := entry }

def activeAt (s : Slots) (i : SlotIndex) : Bool := (s.get i).isActive

/-- How many slots are active. -/
def activeCount (s : Slots) : Nat := (List.finRange 4).countP s.activeAt

/-- The byte whose bit of weight `2 ^ i` says whether slot `i` is active. -/
def mask (s : Slots) : Byte :=
  (List.finRange 4).foldl (fun acc i => if s.activeAt i then acc ||| (1 <<< UInt8.ofNat i.val) else acc) 0

/-- The slots in the order in which they follow slot number `i`, which is itself the last. -/
def following (i : Nat) : List SlotIndex := [1, 2, 3, 4].map fun step => Fin.ofNat 4 (i + step)

/-- The first active slot after slot number `i`, in a circle that ends with it. -/
def firstActiveAfter (s : Slots) (i : Nat) : Option SlotIndex := (following i).find? s.activeAt

/-- The slot to run after `i`: the next active one, and `i` itself if there is none. -/
def nextRunnable (s : Slots) (i : SlotIndex) : SlotIndex := (s.firstActiveAfter i).getD i

/-- The same for any number, which stays as it is if no slot is active. -/
def nextRunnableFrom (s : Slots) (i : Nat) : Nat :=
  match s.firstActiveAfter i with
  | some next => next.val
  | none => i

/-- The slot with the lowest number that holds no thread. -/
def firstInactive (s : Slots) : Option SlotIndex := (List.finRange 4).find? fun i => !s.activeAt i

end Slots
end CoopCpu
