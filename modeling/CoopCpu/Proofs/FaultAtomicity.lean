import CoopCpu.Proofs.Ticks
/-!
# Proofs.FaultAtomicity — a fault leaves nothing half done

Every way in which a step can end with a fault keeps the memory, the registers, the flags and the base offset, and moves
no program counter but that of the fetched slot (`Core.Spares`, `spares_of_stepped`).  A tick that halts the machine
before its devices are served therefore keeps all of that, and the devices too (`tick_spares_of_fault`).
-/
namespace CoopCpu
namespace Core

/-- What a core keeps in a step that ends with a fault. -/
structure Spares (c c' : Core) (fault : Fault) : Prop where
  memory : c'.memory = c.memory
  base : c'.base = c.base
  registers : ∀ i : SlotIndex, (c'.slots.get i).registers = (c.slots.get i).registers
  flags : ∀ i : SlotIndex, (c'.slots.get i).flags = (c.slots.get i).flags
  /-- No slot moves on but the fetched one. -/
  others : ∀ i : SlotIndex, i ≠ c.fetchedSlot → (c'.slots.get i).pc = (c.slots.get i).pc
  /-- The fetched slot has moved on past the instruction, if there was one. -/
  fetched : fault.beforeInstruction = false →
    (c'.slots.get c.fetchedSlot).pc.toNat = (c.slots.get c.fetchedSlot).pc.toNat + 4
  unfetched : fault.beforeInstruction = true → c'.slots = c.slots
  /-- Another slot runs only if the running one was inactive. -/
  active : c'.active =
    if fault = .noActiveThreads ∨ c.slots.activeAt c.active = true then c.active else c.slots.nextRunnable c.active

theorem active_eq_of_fetchedSlot {c : Core} {fault : Fault} (h : fault ≠ .noActiveThreads) :
    c.fetchedSlot =
      if fault = .noActiveThreads ∨ c.slots.activeAt c.active = true then c.active
      else c.slots.nextRunnable c.active := by
  rw [fetchedSlot_eq]
  by_cases ha : c.slots.activeAt c.active = true
  · rw [if_pos ha, if_pos (.inr ha)]
  · rw [if_neg ha, if_neg (not_or.2 ⟨h, ha⟩)]

theorem spares_fetched {c : Core} (ready : c.Ready) {fault : Fault} (h : fault.beforeInstruction = false) :
    c.Spares c.fetched fault where
  memory := by rw [fetched_eq]
  base := by rw [fetched_eq]
  registers i := by
    rw [fetched_eq]
    exact Slots.reading_update ThreadSlot.registers c.slots c.fetchedSlot i fun _ => rfl
  flags i := by
    rw [fetched_eq]
    exact Slots.reading_update ThreadSlot.flags c.slots c.fetchedSlot i fun _ => rfl
  others i hi := by
    rw [fetched_eq]
    exact congrArg ThreadSlot.pc (Slots.get_update_of_ne c.slots hi _)
  fetched _ := fetched_pc ready
  unfetched hf := by rw [h] at hf; cases hf
  active := by
    have hne : fault ≠ .noActiveThreads := fun e => by rw [e] at h; cases h
    rw [← active_eq_of_fetchedSlot hne, fetched_eq]

theorem spares_of_unfetched {c : Core} {fault : Fault} (h : fault.beforeInstruction = true) {i : SlotIndex}
    (hi : i = if fault = .noActiveThreads ∨ c.slots.activeAt c.active = true then c.active
      else c.slots.nextRunnable c.active) : c.Spares { c with active := i } fault where
  memory := rfl
  base := rfl
  registers _ := rfl
  flags _ := rfl
  others _ _ := rfl
  fetched hf := by rw [h] at hf; cases hf
  unfetched _ := rfl
  active := hi

/-- **A step with a fault spares the core.** -/
theorem spares_of_stepped {t : Table} {c c' : Core} {fault : Fault} (h : Stepped t c c' (some fault)) :
    c.Spares c' fault := by
  cases h with
  | idle hidle => exact spares_of_unfetched rfl (if_pos (.inl rfl)).symm
  | atEnd active past =>
    rw [handOver_eq]
    exact spares_of_unfetched rfl (active_eq_of_fetchedSlot fun e => by cases e)
  | undecoded ready hd => exact spares_fetched ready (t.decode_afterFetch _ _ _ hd)
  | refused ready decoded he => exact spares_fetched ready (c.fetched.evaluate_afterFetch _ _ he)

end Core

namespace Machine

/-- **A tick that halts the machine before the service leaves nothing half done**: whatever the fault, memory, devices,
registers, flags and the base offset are as before, and only the fetched slot has moved on. -/
theorem tick_spares_of_fault (m : Machine) (running : m.halted = false) (faulted : m.executed.halted = true) :
    ∃ fault, m.tick.halted = true ∧ m.tick.reason = some fault ∧ m.tick.table = m.table ∧
      m.tick.devices = m.devices ∧ m.core.Spares m.tick.core fault := by
  obtain ⟨fault, hfault⟩ := (halted_executed_iff running).1 faulted
  have hstepped := m.stepped
  rw [hfault] at hstepped
  rw [tick_of_fault running faulted]
  have hexecuted := executed_of_fault running hfault
  refine ⟨fault, faulted, ?_, ?_, ?_, Core.spares_of_stepped hstepped⟩
  · rw [hexecuted]
  · rw [hexecuted]
  · rw [hexecuted]

/-- A machine whose running slot is inactive, and whose next one is about to test a bit beyond the end of memory. -/
def lockBeyondEnd : Machine where
  core := {
    memory := ⟨#[0, 0, 0, 0, 25, 200, 3, 0]⟩
    slots := Slots.starting 4
    active := 2
    base := 0 }
  halted := false
  reason := none
  table := Table.builtIn
  devices := [.scripted ⟨"tape", 0, true, [1], #[]⟩]

theorem lockBeyondEnd_spares : lockBeyondEnd.halted = false ∧ lockBeyondEnd.executed.halted = true ∧
    ∃ fault, lockBeyondEnd.tick.halted = true ∧ lockBeyondEnd.tick.reason = some fault ∧
      lockBeyondEnd.tick.table = lockBeyondEnd.table ∧ lockBeyondEnd.tick.devices = lockBeyondEnd.devices ∧
      lockBeyondEnd.core.Spares lockBeyondEnd.tick.core fault :=
  ⟨rfl, by decide, tick_spares_of_fault lockBeyondEnd rfl (by decide)⟩

end Machine
end CoopCpu
