import CoopCpu.Machine
/-!
# Listing — a machine shown as text

`Machine.listing` shows a range of memory as instructions, one line for every four bytes; a line whose bytes are no
instruction shows question marks.  `Machine.panel` shows the four slots with their registers.
-/
namespace CoopCpu
namespace Machine

/-- The first positions of the lines of a range: `first`, and on in steps of four, as long as they are not after `last`
and lie in memory. -/
def linePositions (m : Machine) (first last : Address) : List Nat :=
  let stop := min (last.toNat + 1) m.core.memory.size
  List.range' first.toNat ((stop - first.toNat + 3) / 4) 4

/-- The bytes of the line that begins at a position; the last line may be short. -/
def lineBytes (m : Machine) (position : Nat) : List Byte :=
  (m.core.memory.bytes.extract position (position + instructionSize)).toList

/-- The instruction that begins at a position, as text. -/
def instructionText (m : Machine) (position : Nat) : String :=
  match m.table.decode m.core.memory (UInt16.ofNat position) with
  | .ok i => i.text
  | .error _ => "???"

def line (m : Machine) (position : Nat) : String :=
  Hex.number 4 position ++ ":\t" ++ Hex.dump (m.lineBytes position) ++ "\t" ++ m.instructionText position

/-- The lines of a range of memory. -/
def listing (m : Machine) (first last : Address) : List String := (m.linePositions first last).map m.line

/-- The line of one slot. -/
def panelLine (m : Machine) (i : SlotIndex) : String :=
  let slot := m.core.slots.get i
  (if i = m.core.active then "*" else " ") ++ toString i.val ++ " @ " ++ Hex.address slot.pc ++ "\t:" ++
    String.join (slot.registers.toList.map fun r => " " ++ toString r.toNat ++ "\t") ++ "\n"

/-- The four slots with their registers; a star marks the one that runs. -/
def panel (m : Machine) : String :=
  "          A\tB\tC\tD\tE\tF\tG\tH\n" ++ String.join ((List.finRange 4).map m.panelLine)

end Machine
end CoopCpu
