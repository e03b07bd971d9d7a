import CoopCpu.Text.Hex
/-!
# Fault — why a machine stops

Every machine stops for one recorded reason.  `Fault` lists the reasons with what they are about, and `Fault.message`
puts each into words.  A position outside memory is kept as a 64-bit number, since the byte after the last address of
a full memory has a position but no address.
-/
namespace CoopCpu

/-- A reason to halt. -/
inductive Fault
  /-- The program asked for it. -/
  | haltInstruction
  | illegalRegisterRead (register : Byte)
  | illegalRegisterWrite (register : Byte)
  /-- A jump below the base offset. -/
  | illegalJumpTarget (target base : Address)
  | illegalBitOffset (offset : Byte)
  | noInactiveThreads
  | onlyOneThreadActive
  | noActiveThreads
  | programCounterOverflow (pc : Address)
  | memoryOutOfBounds (position : UInt64)
  | unknownOpcode (opcode : Byte) (position : Address)
  deriving DecidableEq, Repr

/-- The recorded reason in words. -/
def Fault.message : Fault → String
  | .haltInstruction => "HALT instruction"
  | .illegalRegisterRead r => "Illegal read to invalid register #" ++ Hex.byte r
  | .illegalRegisterWrite r => "Illegal write to register #" ++ Hex.byte r
  | .illegalJumpTarget target base =>
    "Illegal jump address (" ++ Hex.address target ++ " < " ++ Hex.address base ++ ")"
  | .illegalBitOffset offset => "Illegal offset provided to MBTS (" ++ toString offset.toNat ++ ")"
  | .noInactiveThreads => "SPAWN when no inactive threads available"
  | .onlyOneThreadActive => "STOP when only one thread active"
  | .noActiveThreads => "No active threads left to run"
  | .programCounterOverflow pc => "Program counter overflow past " ++ Hex.address pc
  | .memoryOutOfBounds position => "Invalid memory access at " ++ Hex.number 4 position.toNat
  | .unknownOpcode opcode position => "Unknown opcode " ++ Hex.byte opcode ++ " at " ++ Hex.address position

end CoopCpu
