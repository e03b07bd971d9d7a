import CoopCpu.Manual
/-!
# Manual.Objection — what can be wrong with an instruction, in the order in which it is looked for

An `Objection` is something that may be wrong, and the fault that it is; `State.objections` lists those of each
instruction in the terms of the manual.  The order counts: only the first that applies is reported (`Objection.first`), and
what is wrong beside it goes unseen.
-/
namespace CoopCpu
namespace Manual

structure Objection where
  applies : Bool
  fault : Fault

namespace Objection

/-- The fault of the first objection that applies. -/
def first (objections : List Objection) : Option Fault := (objections.find? applies).map fault

def unwritable (code : Byte) : Objection := ⟨8 ≤ code.toNat, .illegalRegisterWrite code⟩

end Objection

namespace State

open Objection (unwritable)

/-- What the running thread reads in a register; where it reads nothing, an objection comes before any use of this. -/
def value (s : State) (code : Byte) : Nat := (s.read code.toNat).getD 0

def unreadable (s : State) (code : Byte) : Objection := ⟨(s.read code.toNat).isNone, .illegalRegisterRead code⟩

def belowBase (s : State) (target : Nat) : Objection :=
  ⟨target < s.base, .illegalJumpTarget (UInt16.ofNat target) (UInt16.ofNat s.base)⟩

def beyondEnd (s : State) (a : Nat) : Objection := ⟨s.memory.length ≤ a, .memoryOutOfBounds (UInt64.ofNat a)⟩

/-- What may be wrong with an instruction of the running thread. -/
def objections (s : State) : Instruction → List Objection
  | .halt => [⟨true, .haltInstruction⟩]
  | .yield => []
  | .stop => [⟨s.liveCount ≤ 1, .onlyOneThreadActive⟩]
  | .spawn a => [s.belowBase a.toNat, ⟨∀ i, s.live i, .noInactiveThreads⟩]
  | .jump a => [s.belowBase a.toNat]
  | .jumpRegister r => [s.unreadable r, s.belowBase (s.value r)]
  | .jumpIfZero r a => s.unreadable r :: if s.value r = 0 then [s.belowBase a.toNat] else []
  | .jumpUnlessZero r a => s.unreadable r :: if s.value r ≠ 0 then [s.belowBase a.toNat] else []
  | .load a r => [s.beyondEnd a.toNat, unwritable r]
  | .store r a => [s.unreadable r, s.beyondEnd a.toNat]
  | .loadIndirect p r => [s.unreadable p, s.beyondEnd (s.value p), unwritable r]
  | .move x y | .add x y | .subtract x y | .bitAnd x y | .bitOr x y | .bitXor x y => [s.unreadable x, unwritable y]
  | .setValue _ r | .increment r | .decrement r | .clear r | .shiftLeft r | .shiftRight r | .bitNot r => [unwritable r]
  | .compare x y => [s.unreadable x, s.unreadable y]
  | .testAndSet a o => [⟨7 < o.toNat, .illegalBitOffset o⟩, s.beyondEnd a.toNat]

end State
end Manual
end CoopCpu
