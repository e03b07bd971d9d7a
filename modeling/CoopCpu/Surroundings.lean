import CoopCpu.Machine
/-!
# Surroundings — a machine among devices that have lives of their own

Between two ticks anything may happen to the devices: bytes arrive, sources are closed, devices are attached, enabled or
replaced.  `Surroundings` says which devices each tick finds, and `Machine.runIn` is the machine that ticks among them.
The bytes that a tick's round of service puts into memory are its `Machine.deliveries`.
-/
namespace CoopCpu

/-- The devices that a tick finds, given its number and the machine that the tick before it left. -/
abbrev Surroundings := Nat → Machine → List Device

/-- Nothing happens to the devices but their service. -/
def Surroundings.quiet : Surroundings := fun _ m => m.devices

/-- What happens to the devices between two ticks when nobody looks at anything but the devices: given the tick's number and
the devices that the tick before it left. -/
abbrev Happenings := Nat → List Device → List Device

/-- The surroundings in which these things happen. -/
def Happenings.surroundings (h : Happenings) : Surroundings := fun n m => h n m.devices

/-- A byte put into memory from outside, and where. -/
abbrev Delivery := Address × Byte

namespace Memory

/-- The memory after bytes have been put into it one after another. -/
def deliver (m : Memory) (deliveries : List Delivery) : Memory := deliveries.foldl (fun m d => m.set d.1 d.2) m

end Memory

namespace Device

/-- What an exchange with a device puts into memory. -/
def exchanged (m : Memory) (d : Device) : List Delivery :=
  match m.read d.outputLocation with
  | .error _ => []
  | .ok handed => if d.inputLocation.toNat < m.size then [(d.inputLocation, (d.serve handed).1)] else []

/-- What the service of a device puts into memory. -/
def delivered (m : Memory) (d : Device) : List Delivery :=
  match d.poll with
  | (true, d') => exchanged m d'
  | (false, _) => []

/-- What a round of service puts into memory. -/
def deliveries (m : Memory) : List Device → List Delivery
  | [] => []
  | d :: rest =>
    match service m d with
    | (_, _, some _) => delivered m d
    | (m', _, none) => delivered m d ++ deliveries m' rest

end Device

namespace Machine

/-- What the devices put into memory in the next tick. -/
def deliveries (m : Machine) : List Delivery :=
  if m.halted || m.executed.halted then [] else Device.deliveries m.executed.core.memory m.executed.devices

/-- The machine that the tick of a number finds. -/
def runIn (w : Surroundings) (m : Machine) : Nat → Machine
  | 0 => { m with devices := w 0 m }
  | n + 1 =>
    let m' := (runIn w m n).tick
    { m' with devices := w (n + 1) m' }

end Machine
end CoopCpu
