import CoopCpu.Byte
/-!
# Device.Scripted — a device that plays back a queue

A scripted device has a queue of bytes to deliver and keeps a record of the bytes it was handed.  It asks to be served
while it is enabled and its queue is not empty.
-/
namespace CoopCpu

structure Scripted where
  name : String
  location : Address
  enabled : Bool
  /-- The bytes still to deliver. -/
  queue : List Byte
  /-- The bytes handed over so far. -/
  record : Array Byte
  deriving DecidableEq

namespace Scripted

def new (name : String) (location : Address) : Scripted := ⟨name, location, false, [], #[]⟩

/-- Puts bytes at the end of the queue. -/
def push (d : Scripted) (bytes : List Byte) : Scripted := { d with queue := d.queue ++ bytes }

def wantsService (d : Scripted) : Bool := d.enabled && !d.queue.isEmpty

/-- Takes a byte and delivers the first of the queue, or 0 from an empty queue. -/
def serve (d : Scripted) (handed : Byte) : Byte × Scripted :=
  (d.queue.headD 0, { d with queue := d.queue.tail, record := d.record.push handed })

end Scripted
end CoopCpu
