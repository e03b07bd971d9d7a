import CoopCpu.Device.Keyboard
import CoopCpu.Device.Scripted
import CoopCpu.Memory
/-!
# Device — what a machine can be connected to

A device sits at a location of three bytes: its status, the byte it delivers into, and the byte it is handed.  Locations
wrap around at the end of the address space.  `Device.serviceAll` serves the devices that ask for it, one after another
in the order in which they were attached; the first access outside memory ends the service with a fault.
-/
namespace CoopCpu

inductive Device
  | scripted (d : Scripted)
  | keyboard (k : Keyboard)
  deriving DecidableEq

namespace Device

def name : Device → String
  | .scripted d => d.name
  | .keyboard _ => Keyboard.name

def location : Device → Address
  | .scripted d => d.location
  | .keyboard _ => Keyboard.location

def statusLocation (d : Device) : Address := d.location

/-- Where the byte that the device delivers is put. -/
def inputLocation (d : Device) : Address := d.location + 1

/-- Where the byte that the device is handed comes from. -/
def outputLocation (d : Device) : Address := d.location + 2

/-- Whether the device asks to be served, and the device after being asked. -/
def poll : Device → Bool × Device
  | .scripted d => (d.wantsService, .scripted d)
  | .keyboard k => (k.poll.pending.isSome, .keyboard k.poll)

/-- Hands a byte to the device: the byte that it delivers, and the device after that. -/
def serve (handed : Byte) : Device → Byte × Device
  | .scripted d => ((d.serve handed).1, .scripted (d.serve handed).2)
  | .keyboard k => (k.serve.1, .keyboard k.serve.2)

/-- Bytes arrive at the device. -/
def push (bytes : List Byte) : Device → Device
  | .scripted d => .scripted (d.push bytes)
  | .keyboard k => .keyboard (k.receive bytes)

/-- No more bytes will arrive; only a keyboard takes note of it. -/
def close : Device → Device
  | .scripted d => .scripted d
  | .keyboard k => .keyboard k.close

/-- A keyboard that has a source is left as it is. -/
def enable : Device → Device
  | .scripted d => .scripted { d with enabled := true }
  | .keyboard k => .keyboard k.enable

def disable : Device → Device
  | .scripted d => .scripted { d with enabled := false }
  | .keyboard k => .keyboard k.disable

/-- What the device remembers of its service: the bytes a scripted device was handed, the last keys of a keyboard. -/
def record : Device → List Byte
  | .scripted d => d.record.toList
  | .keyboard k => k.recent

/-- One exchange with a device: the byte at its output location goes in, the byte it delivers lands at its input
location.  A byte that cannot land is gone. -/
def exchange (m : Memory) (d : Device) : Memory × Device × Option Fault :=
  match m.read d.outputLocation with
  | .error fault => (m, d, some fault)
  | .ok handed =>
    let (delivered, d') := d.serve handed
    match m.write d.inputLocation delivered with
    | .error fault => (m, d', some fault)
    | .ok m' => (m', d', none)

/-- Asks a device and serves it if it wants to be served. -/
def service (m : Memory) (d : Device) : Memory × Device × Option Fault :=
  match d.poll with
  | (true, d') => exchange m d'
  | (false, d') => (m, d', none)

/-- Serves the devices in order, up to the first fault. -/
def serviceAll (m : Memory) : List Device → Memory × List Device × Option Fault
  | [] => (m, [], none)
  | d :: rest =>
    match service m d with
    | (m', d', some fault) => (m', d' :: rest, some fault)
    | (m', d', none) =>
      let (m'', rest', fault) := serviceAll m' rest
      (m'', d' :: rest', fault)

end Device
end CoopCpu
