import CoopCpu.Core.Execution
import CoopCpu.Device
/-!
# Machine — a core that runs under a table, with devices

A machine runs tick by tick.  A tick is one instruction of the core and then a round of service to the devices; a fault
in either halts the machine for good and is recorded, and a halted machine does not change any more.  `Snapshot` is the
part of a machine that can be saved and restored; devices and table stay with the machine.
-/
namespace CoopCpu

structure Machine where
  core : Core
  halted : Bool
  reason : Option Fault
  table : Table
  devices : List Device
  deriving DecidableEq

namespace Machine

/-- A machine that starts at its base offset. -/
def new (memory : Memory) (base : Address) (table : Table) : Machine :=
  { core := Core.starting memory base, halted := false, reason := none, table, devices := [] }

/-- Stops the machine.  Only the first reason is kept. -/
def halt (m : Machine) (fault : Fault) : Machine :=
  if m.halted then m else { m with halted := true, reason := some fault }

/-- Serves the devices once. -/
def serviceDevices (m : Machine) : Machine :=
  let (memory, devices, fault) := Device.serviceAll m.core.memory m.devices
  let m' := { m with core := { m.core with memory }, devices }
  match fault with
  | none => m'
  | some f => m'.halt f

/-- The machine after the instruction of a tick and before its devices are served. -/
def executed (m : Machine) : Machine :=
  let (core, fault) := m.core.step m.table
  let m' := { m with core }
  match fault with
  | none => m'
  | some f => m'.halt f

/-- One instruction, and then a round of service unless the instruction halted the machine. -/
def tick (m : Machine) : Machine :=
  if m.halted then m
  else
    let m' := m.executed
    if m'.halted then m' else m'.serviceDevices

/-- The machine after a number of ticks. -/
def ticks : (count : Nat) → Machine → Machine
  | 0, m => m
  | count + 1, m => if m.halted then m else ticks count m.tick

/-- Runs until the machine halts, if it does within a number of ticks. -/
def runWithin (limit : Nat) (m : Machine) : Option Machine :=
  let m' := ticks limit m
  if m'.halted then some m' else none

/-! ## Devices -/

/-- The machine with one more device, which is served after the others. -/
def attach (m : Machine) (d : Device) : Machine := { m with devices := m.devices ++ [d] }

def enableDevices (m : Machine) : Machine := { m with devices := m.devices.map Device.enable }

def disableDevices (m : Machine) : Machine := { m with devices := m.devices.map Device.disable }

end Machine

/-- What can be saved of a machine.  The active slot may be any number here. -/
structure Snapshot where
  memory : Memory
  slots : Slots
  active : UInt64
  base : Address
  halted : Bool
  reason : Option Fault
  deriving DecidableEq

namespace Machine

def snapshot (m : Machine) : Snapshot where
  memory := m.core.memory
  slots := m.core.slots
  active := UInt64.ofNat m.core.active.val
  base := m.core.base
  halted := m.halted
  reason := m.reason

/-- Takes over all of a snapshot; the number of the active slot counts modulo 4. -/
def restore (m : Machine) (s : Snapshot) : Machine :=
  { m with
    core := { memory := s.memory, slots := s.slots, active := Fin.ofNat 4 s.active.toNat, base := s.base }
    halted := s.halted
    reason := s.reason }

/-- **Restoring a snapshot puts the machine back where it was.** -/
theorem restore_snapshot (m : Machine) : m.restore m.snapshot = m := by
  obtain ⟨⟨memory, slots, active, base⟩, halted, reason, table, devices⟩ := m
  have h : Fin.ofNat 4 (UInt64.ofNat active.val).toNat = active := by
    apply Fin.ext
    have := active.isLt
    show (UInt64.ofNat active.val).toNat % 4 = active.val
    rw [UInt64.toNat_ofNat']
    omega
  unfold restore snapshot
  rw [h]

end Machine
end CoopCpu
