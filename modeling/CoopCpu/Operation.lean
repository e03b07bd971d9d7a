import CoopCpu.Byte
/-!
# Operation — what the processor can be asked to do

Twenty-six operations, each with a mnemonic and the widths of its operands in program order.  The number that stands
for an operation in memory is not fixed here: an instruction table gives it.  Only the test-and-set operation admits
two layouts, since its address may be written in one byte when it lies on the first page.
-/
namespace CoopCpu

/-- How many bytes an operand takes in memory. -/
inductive Width
  /-- A register code, a value or a bit number. -/
  | byte
  /-- An address, high byte first. -/
  | word
  deriving DecidableEq, Repr

namespace Width

def size : Width → Nat
  | .byte => 1
  | .word => 2

/-- The width as a table file writes it. -/
def number (w : Width) : Byte := UInt8.ofNat w.size

end Width

/-- The operand widths of one instruction, in program order. -/
abbrev Layout := List Width

namespace Layout

/-- How many bytes the operands take together. -/
def size (l : Layout) : Nat := l.foldr (fun w n => w.size + n) 0

def numbers (l : Layout) : List Byte := l.map Width.number

end Layout

inductive Operation
  | halt
  | yield
  | stop
  | spawn
  | jump
  | jumpRegister
  | jumpIfZero
  | jumpUnlessZero
  | load
  | store
  | loadIndirect
  | move
  | setValue
  | add
  | subtract
  | increment
  | decrement
  | clear
  | shiftLeft
  | shiftRight
  | bitAnd
  | bitOr
  | bitXor
  | bitNot
  | compare
  | testAndSet
  deriving DecidableEq, Repr

namespace Operation

/-- Every operation, in the order of the built-in codes. -/
def all : List Operation :=
  [halt, yield, stop, spawn, jump, jumpRegister, jumpIfZero, jumpUnlessZero, load, store, loadIndirect, move, setValue,
    add, subtract, increment, decrement, clear, shiftLeft, shiftRight, bitAnd, bitOr, bitXor, bitNot, compare,
    testAndSet]

theorem mem_all (op : Operation) : op ∈ all := by cases op <;> decide

/-- The name of the operation in tables and listings. -/
def mnemonic : Operation → String
  | halt => "HALT"
  | yield => "YIELD"
  | stop => "STOP"
  | spawn => "SPAWN"
  | jump => "JUMP"
  | jumpRegister => "JUMP_REG"
  | jumpIfZero => "JUMP_IF_ZERO"
  | jumpUnlessZero => "JUMP_UNLESS_ZERO"
  | load => "M2R"
  | store => "R2M"
  | loadIndirect => "IM2R"
  | move => "R2R"
  | setValue => "SET"
  | add => "ADD"
  | subtract => "SUB"
  | increment => "INCR"
  | decrement => "DECR"
  | clear => "ZERO"
  | shiftLeft => "LSHIFT"
  | shiftRight => "RSHIFT"
  | bitAnd => "AND"
  | bitOr => "OR"
  | bitXor => "XOR"
  | bitNot => "NOT"
  | compare => "COMPARE"
  | testAndSet => "MBTS"

/-- The operation of a mnemonic. -/
def ofMnemonic? (name : String) : Option Operation := all.find? fun op => op.mnemonic == name

/-- The usual operand widths. -/
def layout : Operation → Layout
  | halt | yield | stop => []
  | spawn | jump => [.word]
  | jumpRegister | increment | decrement | clear | shiftLeft | shiftRight | bitNot => [.byte]
  | jumpIfZero | jumpUnlessZero | store => [.byte, .word]
  | load => [.word, .byte]
  | loadIndirect | move | setValue | add | subtract | bitAnd | bitOr | bitXor | compare | testAndSet => [.byte, .byte]

/-- Every layout a table may give the operation, the usual one first. -/
def layouts (op : Operation) : List Layout :=
  if op = testAndSet then [op.layout, [.word, .byte]] else [op.layout]

/-- How many operands the operation has, in each of its layouts. -/
def arity (op : Operation) : Nat := op.layout.length

theorem layout_mem_layouts (op : Operation) : op.layout ∈ op.layouts := by cases op <;> decide

/-- The layout that consists of these widths, if a table may give it to the operation. -/
def layoutOf? (op : Operation) (widths : List Byte) : Option Layout :=
  op.layouts.find? fun l => l.numbers == widths

/-- Whether a table may give the operation these operand widths. -/
def accepts (op : Operation) (widths : List Byte) : Bool := (op.layoutOf? widths).isSome

end Operation
end CoopCpu
