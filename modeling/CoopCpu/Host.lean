import CoopCpu.Saved.Snapshot
/-!
# Host — what can be asked of a machine from outside

Whoever holds a machine can let it tick or run to its end, halt it, write into its memory, place an image there and put a
saved state in the place of its own.  Between two such requests anything may happen to its devices.  `Machine.Answers` says
what a request leaves; only a run that never comes to an end leaves nothing.
-/
namespace CoopCpu

inductive Request
  | tick
  /-- Tick until the machine has halted. -/
  | run
  | halt (fault : Fault)
  | write (a : Address) (value : Byte)
  | writeBit (a : Address) (i : BitIndex) (value : Bool)
  /-- Place an image in memory. -/
  | place (start : Address) (image : Array Byte)
  /-- Load the state that a text spells. -/
  | load (text : String)
  /-- Something happens to the devices: they are attached or removed, enabled or disabled, bytes arrive. -/
  | devices (change : List Device → List Device)

namespace Request

/-- The request only makes a machine go on or stop. -/
def drives : Request → Bool
  | .tick | .run | .halt _ => true
  | _ => false

/-- The state that the request puts in the place of the present one.  A text that spells none changes nothing. -/
def loaded? : Request → Option Snapshot
  | .load text => Snapshot.ofText? text
  | _ => none

end Request

namespace Machine

/-- The machine halts if it goes on ticking, and this is what it is then. -/
def RunsTo (m m' : Machine) : Prop := ∃ limit, m.runWithin limit = some m'

/-- The machine with the memory that a change has come to; a change that is refused leaves the memory as it is. -/
def tryMemory {ε : Type} (m : Machine) : Except ε Memory → Machine
  | .ok memory => { m with core := { m.core with memory } }
  | .error _ => m

/-- What a request leaves of a machine. -/
inductive Answers (m : Machine) : Request → Machine → Prop
  | tick : Answers m .tick m.tick
  | run {m' : Machine} (ends : m.RunsTo m') : Answers m .run m'
  | halt (fault : Fault) : Answers m (.halt fault) (m.halt fault)
  | write (a : Address) (value : Byte) : Answers m (.write a value) (m.tryMemory (m.core.memory.write a value))
  | writeBit (a : Address) (i : BitIndex) (value : Bool) :
    Answers m (.writeBit a i value) (m.tryMemory (m.core.memory.writeBit a i value))
  | place (start : Address) (image : Array Byte) :
    Answers m (.place start image) (m.tryMemory (m.core.memory.load start image))
  | load (text : String) : Answers m (.load text) ((m.load? text).getD m)
  | devices (change : List Device → List Device) :
    Answers m (.devices change) { m with devices := change m.devices }

/-- What a list of requests leaves of a machine, one made after another. -/
inductive AnswersAll : Machine → List Request → Machine → Prop
  | nil {m : Machine} : AnswersAll m [] m
  | cons {m m₁ m' : Machine} {r : Request} {rest : List Request} (first : m.Answers r m₁)
    (others : AnswersAll m₁ rest m') : AnswersAll m (r :: rest) m'

end Machine
end CoopCpu
