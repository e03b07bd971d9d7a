import CoopCpu.Proofs.RawActions
import CoopCpu.Proofs.Runs
/-!
# Proofs.RawRuns — no run meets a trap, whatever state was loaded

A step of a raw core follows the step of the core (`run_step`), so the ticks and runs of a raw machine follow those of a
machine.  What brings a raw machine there is that a loaded slot number is taken modulo 4 and that a table is only made
of accepted records (`runIn_untrapped`).
-/
namespace CoopCpu
namespace Raw
namespace Action

/-! ## Steps -/

theorem run_get_bind {β : Type} (f : Core → Action β) (c : Core) : ((get : Action Core) >>= f).run c = (f c).run c := by
  rw [run_bind]
  rfl

theorem run_handOver (c : CoopCpu.Core) : handOver.run c.raw = .ok (.ok (), c.handOver.raw) := by
  have hnext : nextRunnable c.raw.slots c.raw.active = .ok (c.slots.nextRunnable c.active).val :=
    nextRunnable_val c.slots c.active
  unfold handOver CoopCpu.Core.handOver
  rw [run_get_bind, Core.running_raw, ensure_bind, hnext, ensure_bind]
  cases c.activeSlot.isActive with
  | true => rfl
  | false => exact follows_setActive (c.slots.nextRunnable c.active) c

theorem run_fetch (c : CoopCpu.Core) : fetch.run c.raw = .ok (c.fetch.2, c.fetch.1.raw) := by
  have hmask : mask c.raw.slots = .ok c.slots.mask := mask_eq c.slots
  unfold fetch CoopCpu.Core.fetch
  rw [run_get_bind, hmask, ensure_bind]
  by_cases hidle : c.slots.activeCount = 0
  · rw [if_pos hidle]
    simp only [if_pos ((mask_eq_zero_iff c.slots).2 hidle)]
    rfl
  · rw [if_neg hidle]
    simp only [if_neg fun h => hidle ((mask_eq_zero_iff c.slots).1 h)]
    rw [run_bind, run_handOver]
    simp only [run_get_bind, Core.running_raw, ensure_bind]
    by_cases hroom : c.handOver.activeSlot.pc.toNat + instructionSize < Memory.addressable
    · rw [if_pos hroom, if_pos hroom, run_bind]
      have hcounter := follows_setCounter c.handOver.active
        (c.handOver.activeSlot.pc + UInt16.ofNat instructionSize) c.handOver
      have hactive : c.handOver.raw.active = c.handOver.active.val := rfl
      rw [hactive, hcounter]
      rfl
    · rw [if_neg hroom, if_neg hroom]
      rfl

/-- How an instruction ended, as an outcome. -/
def outcome : Option Fault → Except Fault Unit
  | none => .ok ()
  | some fault => .error fault

/-- **A raw step follows the step**, under the records of the table. -/
theorem run_step (t : Table) (c : CoopCpu.Core) :
    (step t.records).run c.raw = .ok (outcome (c.step t).2, (c.step t).1.raw) := by
  unfold step CoopCpu.Core.step CoopCpu.Core.fetchInstruction
  rw [run_bind, run_fetch]
  cases c.fetch with
  | mk c' fetched =>
    cases fetched with
    | error fault => rfl
    | ok position =>
      simp only [run_get_bind]
      have hmemory : c'.raw.memory = c'.memory := rfl
      rw [run_bind, run_look, decode_records, hmemory]
      cases t.decode c'.memory position with
      | error fault => simp only; rfl
      | ok i =>
        have hshow (c'' : CoopCpu.Core) :
            (ensure (slot c''.raw.slots c'.raw.active) >>= fun _ => (pure () : Action Unit)).run c''.raw =
              .ok (.ok (), c''.raw) := by
          have hslot : slot c''.raw.slots c'.raw.active = .ok (c''.slots.get c'.active) := slot_val c''.slots c'.active
          rw [hslot, ensure_bind]
          rfl
        simp only
        show (ensure (text i) >>= fun _ => perform i >>= fun _ => get >>= fun c'' =>
          ensure (slot c''.slots c'.raw.active) >>= fun _ => pure ()).run c'.raw = _
        rw [text_eq, ensure_bind, run_bind, follows_perform i c']
        unfold CoopCpu.Core.execute
        cases (CoopCpu.Action.perform i).run c' with
        | mk done c'' =>
          cases done with
          | error fault => rfl
          | ok _ => exact hshow c''

end Action

/-! ## Ticks and runs -/

namespace Machine

theorem halt_raw (m : CoopCpu.Machine) (fault : Fault) : m.raw.halt fault = (m.halt fault).raw := by
  unfold halt CoopCpu.Machine.halt
  cases h : m.halted with
  | true => rw [if_pos rfl]; exact if_pos h
  | false => rw [if_neg Bool.false_ne_true]; exact if_neg (by rw [CoopCpu.Machine.raw, h]; exact Bool.false_ne_true)

theorem serviceDevices_raw (m : CoopCpu.Machine) : m.raw.serviceDevices = m.serviceDevices.raw := by
  unfold serviceDevices CoopCpu.Machine.serviceDevices
  have hmemory : m.raw.core.memory = m.core.memory := rfl
  have hdevices : m.raw.devices = m.devices := rfl
  rw [hmemory, hdevices]
  cases Device.serviceAll m.core.memory m.devices with
  | mk memory served =>
    obtain ⟨devices, fault⟩ := served
    cases fault with
    | none => rfl
    | some f => exact halt_raw { m with core := { m.core with memory }, devices } f

/-- **A raw tick follows the tick.** -/
theorem tick_raw (m : CoopCpu.Machine) : m.raw.tick = .ok m.tick.raw := by
  cases hhalted : m.halted with
  | true =>
    rw [CoopCpu.Machine.tick_of_halted hhalted]
    exact if_pos hhalted
  | false =>
    have hrunning : ¬ m.raw.halted = true := by rw [CoopCpu.Machine.raw, hhalted]; exact Bool.false_ne_true
    have hstep : (Action.step m.raw.records).run m.raw.core =
        .ok (Action.outcome m.nextStep.2, m.nextStep.1.raw) := Action.run_step m.table m.core
    unfold tick
    rw [if_neg hrunning, hstep]
    cases hend : m.nextStep.2 with
    | some fault =>
      have hexecuted := CoopCpu.Machine.executed_of_fault hhalted hend
      have hhalt : m.executed = { m with core := m.nextStep.1 }.halt fault := by
        rw [hexecuted, CoopCpu.Machine.halt, if_neg (by rw [hhalted]; exact Bool.false_ne_true)]
      rw [CoopCpu.Machine.tick_of_fault hhalted (by rw [hexecuted]), hhalt]
      exact congrArg Except.ok (halt_raw { m with core := m.nextStep.1 } fault)
    | none =>
      have hexecuted := CoopCpu.Machine.executed_of_done hend
      rw [CoopCpu.Machine.tick_of_done hhalted (by rw [hexecuted]; exact hhalted), hexecuted]
      exact congrArg Except.ok (serviceDevices_raw { m with core := m.nextStep.1 })

theorem runIn_raw (m : CoopCpu.Machine) (w : Nat → Machine → List Device) : ∀ n : Nat,
    m.raw.runIn w n = .ok (m.runIn (fun k m' => w k m'.raw) n).raw
  | 0 => rfl
  | n + 1 => by
    unfold runIn
    rw [runIn_raw m w n]
    show ((m.runIn (fun k m' => w k m'.raw) n).raw.tick >>= _) = _
    rw [tick_raw]
    rfl

/-- A loaded slot number is below 4 from then on. -/
theorem restore_raw (m : CoopCpu.Machine) (s : Snapshot) : m.raw.restore s = (m.restore s).raw := rfl

end Machine

/-! ## What comes from outside -/

/-- **No run of ticks meets a trap.**  Whatever snapshot is restored, whatever definitions the table was accepted from and
whatever devices each tick finds: every index, sum and shift on the way is in range, every width is one or two bytes,
and no operation looks for an operand that its record does not give.  The active slot stays below 4, and the machine is
at every tick what the machine of this library is. -/
theorem Machine.runIn_untrapped {definitions : List Definition} {m : CoopCpu.Machine} {r : Machine}
    (accepted : Table.ofDefinitions definitions = .ok m.table) (records : r.records = recordsOf definitions)
    (devices : r.devices = m.devices) (s : Snapshot) (w : Nat → Machine → List Device) (n : Nat) :
    ∃ r', (r.restore s).runIn w n = .ok r' ∧ r'.core.active < 4 ∧
      r' = ((m.restore s).runIn (fun k m' => w k m'.raw) n).raw := by
  have hrestore : r.restore s = (m.restore s).raw := by
    rw [← restore_raw]
    unfold restore
    rw [records, devices, recordsOf_of_ofDefinitions accepted]
    rfl
  refine ⟨_, ?_, ?_, rfl⟩
  · rw [hrestore, runIn_raw]
  · exact ((m.restore s).runIn _ n).core.active.isLt

/-- Two definitions, the first with the longer layout. -/
def lockDefinitions : List Definition := [⟨200, "MBTS", [2, 1]⟩, ⟨3, "YIELD", []⟩]

/-- A machine under these definitions, before anything was loaded into it. -/
def lockMachine : CoopCpu.Machine :=
  .new ⟨#[]⟩ 0
    ⟨[⟨200, .testAndSet, [.word, .byte], by decide⟩, ⟨3, .yield, [], by decide⟩], by decide, by decide⟩

/-- A state whose active slot would be number 6.  Only slot 2 holds a thread. -/
def strayed : Snapshot where
  memory := ⟨#[0, 0, 0, 0, 200, 0, 2, 7, 3]⟩
  slots := (Slots.starting 0).update 2 fun t => { t with pc := 4 }
  active := 6
  base := 4
  halted := false
  reason := none

/-- A device whose window goes round the end of the address space. -/
def tape : Device := .scripted { name := "tape", location := 0xFFFF, enabled := true, queue := [5], record := #[] }

/-- The same machine, its records as the definitions give them. -/
def lockRaw : Machine := { lockMachine.raw with records := recordsOf lockDefinitions }

theorem strayed_untrapped : Table.ofDefinitions lockDefinitions = .ok lockMachine.table ∧
    lockRaw.records = recordsOf lockDefinitions ∧ lockRaw.devices = lockMachine.devices ∧
    ∃ r', (lockRaw.restore strayed).runIn (fun _ _ => [tape]) 2 = .ok r' ∧ r'.core.active < 4 := by
  have accepted : Table.ofDefinitions lockDefinitions = .ok lockMachine.table := by rfl
  have records : lockRaw.records = recordsOf lockDefinitions := rfl
  have devices : lockRaw.devices = lockMachine.devices := rfl
  obtain ⟨r', hrun, hactive, -⟩ := Machine.runIn_untrapped accepted records devices strayed (fun _ _ => [tape]) 2
  exact ⟨accepted, records, devices, r', hrun, hactive⟩

-- Without the remainder the slot number runs past the slots.
example : (Machine.mk ⟨strayed.memory, strayed.slots, 6, 4⟩ false none (recordsOf lockDefinitions) []).tick =
    .error (.index 6 4) := by rfl

end Raw
end CoopCpu
