import CoopCpu.Surroundings
/-!
# Service — whose turn it is in a round of service

In a round of service the devices have their turns one after another, each with the memory that those before it left, up
to the first fault.  `Device.Reached` says that the turn of a device comes, `Device.Served` that it asks for service then
and gets it, and `Device.taken` which byte is taken from it; `Machine.Reaches`, `Machine.Serves` and `Machine.taken` say
the same of the round that ends the next tick.
-/
namespace CoopCpu

namespace Device

/-- The memory that device number `k` finds when its turn comes. -/
def memoryAt (m : Memory) (ds : List Device) (k : Nat) : Memory := (serviceAll m (ds.take k)).1

/-- The turn of device number `k` comes: no device before it has a fault. -/
structure Reached (m : Memory) (ds : List Device) (k : Nat) (d : Device) : Prop where
  device : ds[k]? = some d
  unfaulted : (serviceAll m (ds.take k)).2.2 = none

/-- Device number `k` is served: its turn comes, it asks for service, and the bytes to be exchanged lie in memory. -/
structure Served (m : Memory) (ds : List Device) (k : Nat) (d : Device) : Prop where
  reached : Reached m ds k d
  asks : d.poll.1 = true
  output : d.outputLocation.toNat < m.size
  input : d.inputLocation.toNat < m.size

/-- The byte that is taken from a device in its turn.  Without a byte to hand over, none is taken. -/
def taken (m : Memory) (d : Device) : Option Byte :=
  match d.poll with
  | (true, d') =>
    match m.read d'.outputLocation with
    | .ok handed => some (d'.serve handed).1
    | .error _ => none
  | (false, _) => none

end Device

namespace Machine

/-- The memory that device number `k` finds in the next tick: the instruction and the devices before it have had theirs. -/
def memoryAt (m : Machine) (k : Nat) : Memory := Device.memoryAt m.executed.core.memory m.devices k

/-- The turn of device number `k` comes in the next tick: neither the instruction nor a device before it halts the
machine. -/
structure Reaches (m : Machine) (k : Nat) (d : Device) : Prop where
  running : m.halted = false
  unfaulted : m.executed.halted = false
  reached : Device.Reached m.executed.core.memory m.devices k d

/-- Device number `k` is served in the next tick. -/
structure Serves (m : Machine) (k : Nat) (d : Device) : Prop where
  running : m.halted = false
  unfaulted : m.executed.halted = false
  served : Device.Served m.executed.core.memory m.devices k d

/-- The byte that the next tick takes from device number `k`. -/
def taken (m : Machine) (k : Nat) : Option Byte :=
  if m.halted || m.executed.halted then none
  else
    match m.devices[k]?, Device.serviceAll m.executed.core.memory (m.devices.take k) with
    | some d, (memory, _, none) => d.taken memory
    | _, _ => none

end Machine
end CoopCpu
