import CoopCpu.Operation
import CoopCpu.Register
/-!
# Instruction — an operation with its operands

`Instruction.ofOperands` puts an operation and its raw operands together; `Instruction.operation` and
`Instruction.operands` take an instruction apart again, and its text in a listing is written from these two.
-/
namespace CoopCpu

inductive Instruction
  | halt
  | yield
  | stop
  | spawn (target : Address)
  | jump (target : Address)
  | jumpRegister (register : Byte)
  | jumpIfZero (register : Byte) (target : Address)
  | jumpUnlessZero (register : Byte) (target : Address)
  /-- Memory to register. -/
  | load (position : Address) (register : Byte)
  /-- Register to memory. -/
  | store (register : Byte) (position : Address)
  /-- Memory to register, the address being the value of `source`. -/
  | loadIndirect (source destination : Byte)
  | move (source destination : Byte)
  | setValue (value register : Byte)
  | add (source destination : Byte)
  /-- Takes `source` away from `destination`. -/
  | subtract (source destination : Byte)
  | increment (register : Byte)
  | decrement (register : Byte)
  | clear (register : Byte)
  | shiftLeft (register : Byte)
  | shiftRight (register : Byte)
  | bitAnd (source destination : Byte)
  | bitOr (source destination : Byte)
  | bitXor (source destination : Byte)
  | bitNot (register : Byte)
  | compare (left right : Byte)
  /-- Compares a bit of memory with 1 and then sets it. -/
  | testAndSet (position : Address) (offset : Byte)
  deriving DecidableEq, Repr

/-- An operand and what it is for. -/
inductive Operand
  | register (code : Byte)
  | value (b : Byte)
  | bitNumber (offset : Byte)
  | address (a : Address)
  deriving DecidableEq, Repr

namespace Operand

/-- The operand as a number. -/
def raw : Operand → UInt16
  | .register b | .value b | .bitNumber b => b.toUInt16
  | .address a => a

def text : Operand → String
  | .register code => Register.codeText code
  | .value b => Hex.byte b
  | .bitNumber offset => toString offset.toNat
  | .address a => Hex.address a

end Operand

namespace Instruction

def operation : Instruction → Operation
  | halt => .halt
  | yield => .yield
  | stop => .stop
  | spawn _ => .spawn
  | jump _ => .jump
  | jumpRegister _ => .jumpRegister
  | jumpIfZero _ _ => .jumpIfZero
  | jumpUnlessZero _ _ => .jumpUnlessZero
  | load _ _ => .load
  | store _ _ => .store
  | loadIndirect _ _ => .loadIndirect
  | move _ _ => .move
  | setValue _ _ => .setValue
  | add _ _ => .add
  | subtract _ _ => .subtract
  | increment _ => .increment
  | decrement _ => .decrement
  | clear _ => .clear
  | shiftLeft _ => .shiftLeft
  | shiftRight _ => .shiftRight
  | bitAnd _ _ => .bitAnd
  | bitOr _ _ => .bitOr
  | bitXor _ _ => .bitXor
  | bitNot _ => .bitNot
  | compare _ _ => .compare
  | testAndSet _ _ => .testAndSet

/-- The operands in program order. -/
def operands : Instruction → List Operand
  | halt | yield | stop => []
  | spawn a | jump a => [.address a]
  | jumpRegister r | increment r | decrement r | clear r | shiftLeft r | shiftRight r | bitNot r => [.register r]
  | jumpIfZero r a | jumpUnlessZero r a | store r a => [.register r, .address a]
  | load a r => [.address a, .register r]
  | setValue v r => [.value v, .register r]
  | loadIndirect s d | move s d | add s d | subtract s d | bitAnd s d | bitOr s d | bitXor s d | compare s d =>
    [.register s, .register d]
  | testAndSet a i => [.address a, .bitNumber i]

/-- The instruction of an operation and its raw operands.  A byte operand keeps its low byte; operands beyond those the
operation has are ignored. -/
def ofOperands (op : Operation) (raw : List UInt16) : Instruction :=
  let word (i : Nat) : UInt16 := raw.getD i 0
  let byte (i : Nat) : Byte := (word i).toUInt8
  match op with
  | .halt => halt
  | .yield => yield
  | .stop => stop
  | .spawn => spawn (word 0)
  | .jump => jump (word 0)
  | .jumpRegister => jumpRegister (byte 0)
  | .jumpIfZero => jumpIfZero (byte 0) (word 1)
  | .jumpUnlessZero => jumpUnlessZero (byte 0) (word 1)
  | .load => load (word 0) (byte 1)
  | .store => store (byte 0) (word 1)
  | .loadIndirect => loadIndirect (byte 0) (byte 1)
  | .move => move (byte 0) (byte 1)
  | .setValue => setValue (byte 0) (byte 1)
  | .add => add (byte 0) (byte 1)
  | .subtract => subtract (byte 0) (byte 1)
  | .increment => increment (byte 0)
  | .decrement => decrement (byte 0)
  | .clear => clear (byte 0)
  | .shiftLeft => shiftLeft (byte 0)
  | .shiftRight => shiftRight (byte 0)
  | .bitAnd => bitAnd (byte 0) (byte 1)
  | .bitOr => bitOr (byte 0) (byte 1)
  | .bitXor => bitXor (byte 0) (byte 1)
  | .bitNot => bitNot (byte 0)
  | .compare => compare (byte 0) (byte 1)
  | .testAndSet => testAndSet (word 0) (byte 1)

/-- The instruction of an operation and its raw operands, if there are enough of them. -/
def build? (op : Operation) (raw : List UInt16) : Option Instruction :=
  if raw.length < op.arity then none else some (ofOperands op raw)

/-- The instruction as a line of a listing. -/
def text (i : Instruction) : String :=
  match i.operands with
  | [] => i.operation.mnemonic
  | operands => i.operation.mnemonic ++ " " ++ String.intercalate ", " (operands.map Operand.text)

theorem operation_ofOperands (op : Operation) (raw : List UInt16) : (ofOperands op raw).operation = op := by
  cases op <;> rfl

/-- **An instruction is its operation and its operands.** -/
theorem ofOperands_operands (i : Instruction) : ofOperands i.operation (i.operands.map Operand.raw) = i := by
  cases i <;> simp [ofOperands, operation, operands, Operand.raw]

end Instruction
end CoopCpu
