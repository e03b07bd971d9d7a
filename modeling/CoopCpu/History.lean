import CoopCpu.Service
/-!
# History — ticks, and what befalls the devices between them

A history is a list of occurrences: the machine ticks, bytes arrive at a device, its source is closed, it is enabled or
disabled.  `Machine.after` is the machine after a history, `Machine.takenIn` are the bytes that its ticks take from a
device, and `Occurrence.arrivals` the bytes that arrive there.
-/
namespace CoopCpu

namespace Device

/-- What can befall a device between two ticks. -/
inductive Event
  | arrival (bytes : List Byte)
  | closing
  | enabling
  | disabling
  deriving DecidableEq

def undergo : Event → Device → Device
  | .arrival bytes => push bytes
  | .closing => close
  | .enabling => enable
  | .disabling => disable

end Device

inductive Occurrence
  | tick
  /-- Something befalls device number `k`. -/
  | befalls (k : Nat) (e : Device.Event)
  | befallsAll (e : Device.Event)
  deriving DecidableEq

/-- The bytes that arrive at device number `k`. -/
def Occurrence.arrivals (k : Nat) : Occurrence → List Byte
  | .befalls j (.arrival bytes) => if j = k then bytes else []
  | .befallsAll (.arrival bytes) => bytes
  | _ => []

namespace Machine

def undergo (m : Machine) : Occurrence → Machine
  | .tick => m.tick
  | .befalls k e => { m with devices := m.devices.modify k (Device.undergo e) }
  | .befallsAll e => { m with devices := m.devices.map (Device.undergo e) }

def after (m : Machine) : List Occurrence → Machine
  | [] => m
  | o :: rest => (m.undergo o).after rest

/-- The bytes that an occurrence takes from device number `k`: only a tick takes any, and one at the most. -/
def takenBy (m : Machine) (k : Nat) : Occurrence → List Byte
  | .tick => (m.taken k).toList
  | _ => []

def takenIn (m : Machine) (k : Nat) : List Occurrence → List Byte
  | [] => []
  | o :: rest => m.takenBy k o ++ (m.undergo o).takenIn k rest

end Machine
end CoopCpu
