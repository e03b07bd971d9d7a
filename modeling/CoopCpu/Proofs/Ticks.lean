import CoopCpu.Machine
import CoopCpu.Proofs.Sources
/-!
# Proofs.Ticks — a tick is a step and then a round of service

`Machine.executed` is the machine between the two halves of a tick.  A tick of a running machine ends there if the step
had a fault (`tick_of_fault`), and otherwise serves the devices, which touch nothing of the core but its memory
(`serviceDevices_core`).
-/
namespace CoopCpu
namespace Machine

/-- The step that the next tick makes. -/
def nextStep (m : Machine) : Core × Option Fault := m.core.step m.table

theorem halt_core (m : Machine) (fault : Fault) : (m.halt fault).core = m.core := by
  unfold halt
  by_cases h : m.halted = true
  · rw [if_pos h]
  · rw [if_neg h]

theorem executed_core (m : Machine) : m.executed.core = m.nextStep.1 := by
  unfold executed nextStep
  cases h : m.core.step m.table with
  | mk c fault =>
    cases fault with
    | none => rfl
    | some f => exact halt_core _ f

theorem stepped (m : Machine) : Core.Stepped m.table m.core m.executed.core m.nextStep.2 := by
  rw [executed_core]
  exact Core.stepped m.table m.core

theorem executed_of_fault {m : Machine} (running : m.halted = false) {fault : Fault} (h : m.nextStep.2 = some fault) :
    m.executed = { m with core := m.nextStep.1, halted := true, reason := some fault } := by
  have hstep : m.core.step m.table = (m.nextStep.1, some fault) := by rw [← h]; rfl
  unfold executed halt
  rw [hstep]
  simp only [running, Bool.false_eq_true, if_false]

theorem executed_of_done {m : Machine} (h : m.nextStep.2 = none) : m.executed = { m with core := m.nextStep.1 } := by
  have hstep : m.core.step m.table = (m.nextStep.1, none) := by rw [← h]; rfl
  unfold executed
  rw [hstep]

/-- **A tick halts before the service exactly by a fault of its step.** -/
theorem halted_executed_iff {m : Machine} (running : m.halted = false) :
    m.executed.halted = true ↔ ∃ fault, m.nextStep.2 = some fault := by
  cases h : m.nextStep.2 with
  | some fault =>
    rw [executed_of_fault running h]
    exact ⟨fun _ => ⟨fault, rfl⟩, fun _ => rfl⟩
  | none =>
    rw [executed_of_done h]
    constructor
    · intro hh; rw [running] at hh; cases hh
    · rintro ⟨fault, hf⟩; cases hf

theorem done_of_unfaulted {m : Machine} (running : m.halted = false) (unfaulted : m.executed.halted = false) :
    m.nextStep.2 = none := by
  cases h : m.nextStep.2 with
  | none => rfl
  | some fault =>
    have halted := (halted_executed_iff running).2 ⟨fault, h⟩
    rw [unfaulted] at halted
    cases halted

theorem tick_of_halted {m : Machine} (h : m.halted = true) : m.tick = m := by
  unfold tick
  rw [if_pos h]

theorem tick_of_fault {m : Machine} (running : m.halted = false) (h : m.executed.halted = true) :
    m.tick = m.executed := by
  unfold tick
  rw [if_neg (by rw [running]; exact Bool.false_ne_true)]
  exact if_pos h

theorem tick_of_done {m : Machine} (running : m.halted = false) (h : m.executed.halted = false) :
    m.tick = m.executed.serviceDevices := by
  unfold tick
  rw [if_neg (by rw [running]; exact Bool.false_ne_true)]
  exact if_neg (by rw [h]; exact Bool.false_ne_true)

/-- **The service touches nothing of the core but its memory.** -/
theorem serviceDevices_core (m : Machine) :
    m.serviceDevices.core = { m.core with memory := (Device.serviceAll m.core.memory m.devices).1 } := by
  unfold serviceDevices
  cases h : Device.serviceAll m.core.memory m.devices with
  | mk memory rest =>
    obtain ⟨devices, fault⟩ := rest
    cases fault with
    | none => rfl
    | some f => exact halt_core _ f

theorem serviceDevices_of_fault {m : Machine} (running : m.halted = false) {memory : Memory} {devices : List Device}
    {fault : Fault} (h : Device.serviceAll m.core.memory m.devices = (memory, devices, some fault)) :
    m.serviceDevices = { m with core := { m.core with memory }, devices, halted := true, reason := some fault } := by
  unfold serviceDevices halt
  rw [h]
  simp only [running, Bool.false_eq_true, if_false]

theorem serviceDevices_of_done {m : Machine} {memory : Memory} {devices : List Device}
    (h : Device.serviceAll m.core.memory m.devices = (memory, devices, none)) :
    m.serviceDevices = { m with core := { m.core with memory }, devices } := by
  unfold serviceDevices
  rw [h]

/-- The next tick fetches for slot `f`. -/
structure Fetches (m : Machine) (f : SlotIndex) : Prop where
  running : m.halted = false
  some_active : m.core.slots.activeCount ≠ 0
  slot : m.core.fetchedSlot = f

theorem Fetches.activeAt {m : Machine} {f : SlotIndex} (h : m.Fetches f) : m.core.slots.activeAt f = true := by
  rw [← h.slot]
  exact Core.activeAt_fetchedSlot h.some_active

/-- The next tick carries out an instruction: there is one to fetch, and this is what it decodes to. -/
structure Executes (m : Machine) (i : Instruction) : Prop where
  running : m.halted = false
  ready : m.core.Ready
  decoded : m.table.decode m.core.memory m.core.fetchAddress = .ok i

theorem nextStep_of_executes {m : Machine} {i : Instruction} (h : m.Executes i) {effect : Effect}
    (he : m.core.fetched.evaluate i = .ok effect) : m.nextStep = (m.core.fetched.apply effect, none) := by
  unfold nextStep Core.step
  rw [Core.fetchInstruction_of_ready m.table h.ready, h.decoded]
  exact Core.execute_of_ok he

end Machine
end CoopCpu
