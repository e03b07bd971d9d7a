import CoopCpu.Text.Hex
import CoopCpu.Thread
/-!
# Register — the registers a program can name

A register is named by a byte.  The codes 0 to 7 are the general registers `A` to `H`, the only ones that can be
written.  Seven more codes show the state of the machine: which thread runs, which slots are active, the program
counter and the four flags.  Every other code names nothing.
-/
namespace CoopCpu

/-- What a register code can stand for. -/
inductive Register
  | general (r : RegisterIndex)
  | runningThread
  | activeSlots
  | programCounter
  | equalFlag
  | greaterFlag
  | lessFlag
  | overflowFlag
  deriving DecidableEq, Repr

namespace Register

/-- The general register a code stands for, if it stands for one. -/
def general? (code : Byte) : Option RegisterIndex :=
  if h : code.toNat < 8 then some ⟨code.toNat, h⟩ else none

/-- What a code stands for. -/
def ofCode? (code : Byte) : Option Register :=
  match general? code with
  | some r => some (.general r)
  | none =>
    if code = 0x80 then some .runningThread
    else if code = 0x81 then some .activeSlots
    else if code = 0x82 then some .programCounter
    else if code = 0x84 then some .equalFlag
    else if code = 0x85 then some .greaterFlag
    else if code = 0x86 then some .lessFlag
    else if code = 0x87 then some .overflowFlag
    else none

/-- The name a register has in a listing. -/
def name : Register → String
  | .general r => String.singleton (Char.ofNat (65 + r.val))
  | .runningThread => "T"
  | .activeSlots => "TC"
  | .programCounter => "PC"
  | .equalFlag => "CE"
  | .greaterFlag => "CG"
  | .lessFlag => "CL"
  | .overflowFlag => "OF"

/-- A register code in a listing: its name, or the code itself after `#`. -/
def codeText (code : Byte) : String :=
  match ofCode? code with
  | some r => r.name
  | none => "#" ++ Hex.byte code

end Register
end CoopCpu
