import CoopCpu.Proofs.ThreadCount
/-!
# Proofs.Privacy — what a thread cannot see of the others

Two machines are alike to some of the slots if they differ at most in the registers, flags and program counters of the
other slots, and not in which of those are active (`Machine.Alike`).  An instruction of a slot that is the same in both
comes to the same effect in both (`Core.Alike.evaluate`), so as long as only such slots are fetched for, the machines stay
alike (`Machine.Alike.runIn`): what a thread sees of the others is which of them are active, and no more.
-/
namespace CoopCpu

variable {seen : SlotIndex → Prop}

namespace Slots

variable {s s' : Slots}

/-- The same slots are active, and those that are seen are the same. -/
structure Alike (seen : SlotIndex → Prop) (s s' : Slots) : Prop where
  activeAt : ∀ i, s'.activeAt i = s.activeAt i
  get : ∀ i, seen i → s'.get i = s.get i

namespace Alike

theorem symm (h : s.Alike seen s') : s'.Alike seen s :=
  ⟨fun i => (h.activeAt i).symm, fun i hi => (h.get i hi).symm⟩

theorem update (h : s.Alike seen s') {i : SlotIndex} (hi : seen i) (change : ThreadSlot → ThreadSlot) :
    (s.update i change).Alike seen (s'.update i change) := by
  constructor
  · intro j
    rw [activeAt_update, activeAt_update, h.get i hi, h.activeAt j]
  · intro j hj
    rw [get_update, get_update, h.get i hi, h.get j hj]

theorem setCounter (h : s.Alike seen s') (i : SlotIndex) (pc : Address) :
    (s.update i fun t => { t with pc }).Alike seen (s'.update i fun t => { t with pc }) := by
  constructor
  · intro j
    rw [activeAt_update, activeAt_update, h.activeAt j]
    -- slot `i` need not be seen: what its counter was before does not matter
    rfl
  · intro j hj
    rw [get_update, get_update, h.get j hj]
    by_cases hij : j = i
    · rw [if_pos hij, if_pos hij, ← hij, h.get j hj]
    · rw [if_neg hij, if_neg hij]

end Alike
end Slots

namespace Core

variable {c c' : Core} {t : Table}

/-- The cores differ at most in slots that are not seen, and the same slots are active. -/
structure Alike (seen : SlotIndex → Prop) (c c' : Core) : Prop where
  rest : c' = { c with slots := c'.slots }
  slots : c.slots.Alike seen c'.slots

namespace Alike

theorem memory (h : c.Alike seen c') : c'.memory = c.memory := by rw [h.rest]

theorem base (h : c.Alike seen c') : c'.base = c.base := by rw [h.rest]

theorem active (h : c.Alike seen c') : c'.active = c.active := by rw [h.rest]

theorem symm (h : c.Alike seen c') : c'.Alike seen c := ⟨by rw [h.rest], h.slots.symm⟩

theorem withSlots (h : c.Alike seen c') {s s' : Slots} (hs : s.Alike seen s') :
    Alike seen { c with slots := s } { c' with slots := s' } := ⟨by rw [h.rest], hs⟩

theorem withMemory (h : c.Alike seen c') (memory : Memory) :
    Alike seen { c with memory } { c' with memory } := ⟨by rw [h.rest], h.slots⟩

theorem withActive (h : c.Alike seen c') (i : SlotIndex) :
    Alike seen { c with active := i } { c' with active := i } := ⟨by rw [h.rest], h.slots⟩

/-! ## What an instruction sees -/

section Running

variable (h : c.Alike seen c') (running : seen c.active)
include h running

theorem activeSlot : c'.activeSlot = c.activeSlot := by
  unfold Core.activeSlot
  rw [h.active, h.slots.get c.active running]

/-- **A register shows the same**: those of other slots cannot be named, and the mask is of active slots alone. -/
theorem registerValue (r : Register) : c'.registerValue c'.active r = c.registerValue c.active r := by
  have hslot : c'.slots.get c'.active = c.slots.get c.active := h.activeSlot running
  cases r with
  | runningThread =>
    unfold Core.registerValue
    rw [h.active]
  | activeSlots =>
    unfold Core.registerValue
    rw [Slots.mask_congr h.slots.activeAt]
  | general _ | programCounter | equalFlag | greaterFlag | lessFlag | overflowFlag =>
    unfold Core.registerValue
    rw [hslot]

theorem register (code : Byte) : c'.register code = c.register code := by
  unfold Core.register registerOf
  cases Register.ofCode? code with
  | none => rfl
  | some r => exact congrArg Except.ok (h.registerValue running r)

/-- **An instruction of a slot that is seen comes to the same effect**, or is refused with the same fault. -/
theorem evaluate (i : Instruction) : c'.evaluate i = c.evaluate i := by
  have hslot := h.activeSlot running
  have hregister (code : Byte) : c'.register code = c.register code := h.register running code
  have hbyte (code : Byte) : c'.byteRegister code = c.byteRegister code := by
    unfold byteRegister
    rw [hregister]
  have htarget (target : Address) : c'.checkTarget target = c.checkTarget target := by
    unfold checkTarget
    rw [h.base]
  have hjump (target : Address) : c'.jumpTo target = c.jumpTo target := by
    unfold jumpTo
    rw [htarget]
  have hcalculation (code : Byte) (result : Byte → Option Byte) :
      c'.calculation code result = c.calculation code result := by
    unfold calculation
    rw [hslot]
  have hbitwise (source destination : Byte) (join : Byte → Byte → Byte) :
      c'.bitwise source destination join = c.bitwise source destination join := by
    unfold bitwise
    rw [hbyte, hslot]
  -- a stop and a spawn look at all slots, but only at which of them are active
  cases i with
  | halt | yield | setValue _ _ | clear _ => rfl
  | stop => simp only [Core.evaluate, Slots.activeCount_congr h.slots.activeAt]
  | spawn _ => simp only [Core.evaluate, htarget, Slots.firstInactive_congr h.slots.activeAt]
  | load _ _ | store _ _ | loadIndirect _ _ | testAndSet _ _ =>
    simp only [Core.evaluate, hregister, hbyte, h.memory]
  | jump _ | jumpRegister _ | jumpIfZero _ _ | jumpUnlessZero _ _ | move _ _ | compare _ _ =>
    simp only [Core.evaluate, hregister, hbyte, hjump]
  | add _ _ | subtract _ _ | increment _ | decrement _ | shiftLeft _ | shiftRight _ =>
    simp only [Core.evaluate, hregister, hcalculation]
  | bitAnd _ _ | bitOr _ _ | bitXor _ _ | bitNot _ =>
    simp only [Core.evaluate, hbitwise, hslot]

theorem updateActive (change : ThreadSlot → ThreadSlot) :
    (c.updateActive change).Alike seen (c'.updateActive change) := by
  have hslots : (c.slots.update c.active change).Alike seen (c'.slots.update c'.active change) := by
    rw [h.active]
    exact h.slots.update running change
  exact h.withSlots hslots

theorem apply (effect : Effect) : (c.apply effect).Alike seen (c'.apply effect) := by
  cases effect with
  | none => exact h
  | handOver =>
    show Alike seen { c with active := _ } { c' with active := c'.slots.nextRunnable c'.active }
    rw [h.active, Slots.nextRunnable_congr h.slots.activeAt]
    exact h.withActive _
  | retire =>
    show Alike seen { c.updateActive _ with active := _ } { c'.updateActive _ with active := c'.active + 1 }
    rw [h.active]
    exact (h.updateActive running _).withActive _
  | start slot entry => exact (h.withSlots (h.slots.setCounter slot entry)).withActive slot
  | store position value =>
    show Alike seen { c with memory := _ } { c' with memory := c'.memory.set position value }
    rw [h.memory]
    exact h.withMemory _
  | testAndSet flags position value =>
    show Alike seen { c.updateActive _ with memory := _ } { c'.updateActive _ with memory := c'.memory.set position value }
    rw [h.memory]
    exact (h.updateActive running _).withMemory _
  | calculate r result => cases result <;> exact h.updateActive running _
  | jump _ | setRegister _ _ | setFlags _ => exact h.updateActive running _

theorem execute (i : Instruction) :
    (c.execute i).1.Alike seen (c'.execute i).1 ∧ (c'.execute i).2 = (c.execute i).2 := by
  have he := h.evaluate running i
  cases hevaluate : c.evaluate i with
  | ok effect =>
    rw [hevaluate] at he
    rw [execute_of_ok hevaluate, execute_of_ok he]
    exact ⟨h.apply running effect, rfl⟩
  | error fault =>
    rw [hevaluate] at he
    rw [execute_of_error hevaluate, execute_of_error he]
    exact ⟨h, rfl⟩

end Running

/-! ## The fetch -/

theorem fetchedSlot (h : c.Alike seen c') : c'.fetchedSlot = c.fetchedSlot := by
  rw [fetchedSlot_eq, fetchedSlot_eq, h.active, h.slots.activeAt, Slots.nextRunnable_congr h.slots.activeAt]

theorem fetchAddress (h : c.Alike seen c') (fetches : seen c.fetchedSlot) : c'.fetchAddress = c.fetchAddress := by
  unfold Core.fetchAddress
  rw [h.fetchedSlot, h.slots.get _ fetches]

theorem handOver (h : c.Alike seen c') : c.handOver.Alike seen c'.handOver := by
  rw [handOver_eq, handOver_eq, h.fetchedSlot]
  exact h.withActive _

theorem fetched (h : c.Alike seen c') (fetches : seen c.fetchedSlot) : c.fetched.Alike seen c'.fetched :=
  h.handOver.updateActive fetches _

/-- **A step that fetches for a slot that is seen leaves alike what was alike**, and ends with the same fault or with none;
so does one that finds no slot to fetch for. -/
theorem step (h : c.Alike seen c') (fetches : c.slots.activeCount ≠ 0 → seen c.fetchedSlot) (t : Table) :
    (c.step t).1.Alike seen (c'.step t).1 ∧ (c'.step t).2 = (c.step t).2 := by
  have hcount : c'.slots.activeCount = c.slots.activeCount := Slots.activeCount_congr h.slots.activeAt
  by_cases some_active : c.slots.activeCount = 0
  · rw [step_of_idle t some_active, step_of_idle t (hcount.trans some_active)]
    exact ⟨h, rfl⟩
  have hseen := fetches some_active
  have some_active' : c'.slots.activeCount ≠ 0 := by rw [hcount]; exact some_active
  have haddress := h.fetchAddress hseen
  by_cases room : c.fetchAddress.toNat + 4 < 65536
  · have ready : c.Ready := ⟨some_active, room⟩
    have ready' : c'.Ready := ⟨some_active', by rw [haddress]; exact room⟩
    unfold Core.step
    rw [fetchInstruction_of_ready t ready, fetchInstruction_of_ready t ready', h.memory, haddress]
    cases t.decode c.memory c.fetchAddress with
    | error fault => exact ⟨h.fetched hseen, rfl⟩
    | ok i =>
      refine (h.fetched hseen).execute ?_ i
      rw [active_fetched]
      exact hseen
  · have past' : ¬ c'.fetchAddress.toNat + 4 < 65536 := by rw [haddress]; exact room
    rw [step_of_end t some_active room, step_of_end t some_active' past', haddress]
    exact ⟨h.handOver, rfl⟩

end Alike
end Core

namespace Machine

variable {m m' : Machine}

/-- The machines differ at most in slots that are not seen, with the same slots active, and in the reason that a machine
may be given before it halts. -/
structure Alike (seen : SlotIndex → Prop) (m m' : Machine) : Prop where
  rest : m' = { m with core := m'.core, reason := m'.reason }
  core : m.core.Alike seen m'.core
  reason : m.halted = true → m'.reason = m.reason

namespace Alike

theorem halted (h : m.Alike seen m') : m'.halted = m.halted := by rw [h.rest]

theorem devices (h : m.Alike seen m') : m'.devices = m.devices := by rw [h.rest]

theorem table (h : m.Alike seen m') : m'.table = m.table := by rw [h.rest]

theorem symm (h : m.Alike seen m') : m'.Alike seen m where
  rest := by rw [h.rest]
  core := h.core.symm
  reason := fun halted => (h.reason (h.halted ▸ halted)).symm

theorem withDevices (h : m.Alike seen m') (devices : List Device) :
    Alike seen { m with devices } { m' with devices } where
  rest := by rw [h.rest]
  core := h.core
  reason := h.reason

theorem withCore (h : m.Alike seen m') {c c' : Core} (hc : c.Alike seen c') :
    Alike seen { m with core := c } { m' with core := c' } where
  rest := by rw [h.rest]
  core := hc
  reason := h.reason

theorem halt (h : m.Alike seen m') (fault : Fault) : (m.halt fault).Alike seen (m'.halt fault) := by
  unfold Machine.halt
  rw [h.halted]
  by_cases halted : m.halted = true
  · rw [if_pos halted, if_pos halted]
    exact h
  · rw [if_neg halted, if_neg halted]
    exact ⟨by rw [h.rest], h.core, fun _ => rfl⟩

theorem fetches_iff (h : m.Alike seen m') (f : SlotIndex) : m'.Fetches f ↔ m.Fetches f := by
  have hcount := Slots.activeCount_congr h.core.slots.activeAt
  have hslot := h.core.fetchedSlot
  constructor
  · rintro ⟨running, some_active, slot⟩
    exact ⟨h.halted ▸ running, hcount ▸ some_active, hslot ▸ slot⟩
  · rintro ⟨running, some_active, slot⟩
    exact ⟨h.halted.trans running, by rw [hcount]; exact some_active, hslot.trans slot⟩

/-! ## One tick -/

theorem executed (h : m.Alike seen m') (running : m.halted = false) (fetches : ∀ f, m.Fetches f → seen f) :
    m.executed.Alike seen m'.executed := by
  have running' : m'.halted = false := h.halted.trans running
  have hstep : m.nextStep.1.Alike seen m'.nextStep.1 ∧ m'.nextStep.2 = m.nextStep.2 := by
    unfold nextStep
    rw [h.table]
    exact h.core.step (fun some_active => fetches _ ⟨running, some_active, rfl⟩) m.table
  obtain ⟨hcore, hsame⟩ := hstep
  cases hfault : m.nextStep.2 with
  | some fault =>
    rw [executed_of_fault running hfault, executed_of_fault running' (hsame.trans hfault)]
    exact ⟨by rw [h.rest], hcore, fun _ => rfl⟩
  | none =>
    rw [executed_of_done hfault, executed_of_done (hsame.trans hfault)]
    exact h.withCore hcore

theorem serviceDevices (h : m.Alike seen m') : m.serviceDevices.Alike seen m'.serviceDevices := by
  unfold Machine.serviceDevices
  rw [h.devices, h.core.memory]
  cases Device.serviceAll m.core.memory m.devices with
  | mk memory r =>
    obtain ⟨devices, fault⟩ := r
    have hserved := (h.withCore (h.core.withMemory memory)).withDevices devices
    cases fault with
    | none => exact hserved
    | some f => exact hserved.halt f

theorem tick (h : m.Alike seen m') (fetches : ∀ f, m.Fetches f → seen f) : m.tick.Alike seen m'.tick := by
  cases running : m.halted with
  | true =>
    rw [tick_of_halted running, tick_of_halted (h.halted.trans running)]
    exact h
  | false =>
    have running' : m'.halted = false := h.halted.trans running
    have hexecuted := h.executed running fetches
    cases halted : m.executed.halted with
    | true =>
      rw [tick_of_fault running halted, tick_of_fault running' (hexecuted.halted.trans halted)]
      exact hexecuted
    | false =>
      rw [tick_of_done running halted, tick_of_done running' (hexecuted.halted.trans halted)]
      exact hexecuted.serviceDevices

/-! ## A run -/

theorem runIn (h : m.Alike seen m') (happenings : Happenings) : ∀ k : Nat,
    (∀ j, j < k → ∀ f, (m.runIn happenings.surroundings j).Fetches f → seen f) →
    (m.runIn happenings.surroundings k).Alike seen (m'.runIn happenings.surroundings k)
  | 0, _ => by
    -- what happens to the devices depends on the devices alone, and these are the same
    show Alike seen { m with devices := _ } { m' with devices := happenings 0 m'.devices }
    rw [h.devices]
    exact h.withDevices _
  | k + 1, fetches => by
    have hrun := runIn h happenings k fun j hj => fetches j (Nat.lt_succ_of_lt hj)
    have hnext := hrun.tick (fetches k (Nat.lt_succ_self k))
    show Alike seen { (m.runIn happenings.surroundings k).tick with devices := _ }
      { (m'.runIn happenings.surroundings k).tick with
        devices := happenings (k + 1) (m'.runIn happenings.surroundings k).tick.devices }
    rw [hnext.devices]
    exact hnext.withDevices _

theorem fetches_runIn (h : m.Alike seen m') (happenings : Happenings) {f : SlotIndex} (hf : seen f) {k : Nat}
    (fetches : ∀ j, j < k → (m.runIn happenings.surroundings j).Fetches f) :
    ∀ j, j < k → (m'.runIn happenings.surroundings j).Fetches f := by
  intro j hj
  have hrun := h.runIn happenings j fun i hij f' hf' => by
    have hsame : f' = f := hf'.slot.symm.trans (fetches i (Nat.lt_trans hij hj)).slot
    rw [hsame]
    exact hf
  exact (hrun.fetches_iff f).2 (fetches j hj)

end Alike

/-! ## The reason -/

theorem reason_tick_of_running {m : Machine} (h : m.tick.halted = false) : m.tick.reason = m.reason := by
  cases running : m.halted with
  | true => rw [tick_of_halted running]
  | false =>
    cases halted : m.executed.halted with
    | true =>
      rw [tick_of_fault running halted, halted] at h
      cases h
    | false =>
      rw [tick_of_done running halted] at h ⊢
      have hexecuted := executed_of_done (done_of_unfaulted running halted)
      unfold serviceDevices at h ⊢
      cases hs : Device.serviceAll m.executed.core.memory m.executed.devices with
      | mk memory r =>
        obtain ⟨devices, fault⟩ := r
        rw [hs] at h
        cases fault with
        | none =>
          show m.executed.reason = m.reason
          rw [hexecuted]
        | some f =>
          unfold halt at h
          simp [halted] at h

theorem reason_runIn_of_running (w : Surroundings) (m : Machine) : ∀ n : Nat,
    (m.runIn w n).halted = false → (m.runIn w n).reason = m.reason
  | 0, _ => rfl
  | n + 1, running => by
    have running_tick : (m.runIn w n).tick.halted = false := running
    have running_before : (m.runIn w n).halted = false := by
      cases halted : (m.runIn w n).halted with
      | true =>
        rw [tick_of_halted halted, halted] at running_tick
        cases running_tick
      | false => rfl
    exact (reason_tick_of_running running_tick).trans (reason_runIn_of_running w m n running_before)

/-- **A thread cannot see what is private to the others.**  Let two machines have the same table, devices, memory, base
offset and active slot and the same set of active slots, and let the slot that the next tick fetches for be the same in
both, whatever the other slots hold.  Then a tick leaves them like this, for the same slot, and as long as the run of one
fetches for that slot the run of the other does, and leaves them like this too.  They halt at the same time and for the
same reason; until then each keeps the reason that it began with. -/
theorem others_unseen {m m' : Machine} (alike : m.Alike m.Fetches m') (h : Happenings) :
    (m.tick.Alike m.Fetches m'.tick ∧ (m'.reason = m.reason → m'.tick.reason = m.tick.reason)) ∧
    ∀ f k,
      ((∀ j, j < k → (m.runIn h.surroundings j).Fetches f) ↔ ∀ j, j < k → (m'.runIn h.surroundings j).Fetches f) ∧
      ((∀ j, j < k → (m.runIn h.surroundings j).Fetches f) →
        (m.runIn h.surroundings k).Alike m.Fetches (m'.runIn h.surroundings k) ∧
        (m'.reason = m.reason → (m'.runIn h.surroundings k).reason = (m.runIn h.surroundings k).reason)) := by
  have first {m : Machine} {f : SlotIndex} {k : Nat} (fetches : ∀ j, j < k → (m.runIn h.surroundings j).Fetches f)
      (hk : 0 < k) : m.Fetches f := ⟨(fetches 0 hk).running, (fetches 0 hk).some_active, (fetches 0 hk).slot⟩
  have htick := alike.tick fun _ hf => hf
  refine ⟨⟨htick, fun same => ?_⟩, fun f k => ⟨⟨fun fetches j hj => ?_, fun fetches j hj => ?_⟩, fun fetches => ?_⟩⟩
  · cases running : m.tick.halted with
    | true => exact htick.reason running
    | false => rw [reason_tick_of_running running, reason_tick_of_running (htick.halted.trans running), same]
  · exact alike.fetches_runIn h (first fetches (Nat.zero_lt_of_lt hj)) fetches j hj
  · have hf : m.Fetches f := (alike.fetches_iff f).1 (first fetches (Nat.zero_lt_of_lt hj))
    exact alike.symm.fetches_runIn h hf fetches j hj
  · have hrun := alike.runIn h k fun j hj f' hf' => by
      rw [← hf'.slot, (fetches j hj).slot]
      exact first fetches (Nat.zero_lt_of_lt hj)
    refine ⟨hrun, fun same => ?_⟩
    cases running : (m.runIn h.surroundings k).halted with
    | true => exact hrun.reason running
    | false =>
      rw [reason_runIn_of_running _ m k running, reason_runIn_of_running _ m' k (hrun.halted.trans running), same]

/-- A machine that counts its threads and looks at its own program counter, with a neighbour in slot 1. -/
def watching (neighbour : ThreadSlot) : Machine :=
  let m := Machine.new ⟨#[0, 0, 0, 0, 11, 0x81, 0, 0, 11, 0x82, 1, 0, 1, 0, 0, 0, 0]⟩ 4 Table.builtIn
  { m with core := { m.core with slots := m.core.slots.update 1 fun _ => neighbour } }

def watchingIdle : Machine := watching ⟨100, Vector.replicate 8 0, Flags.clear⟩

def watchingBusy : Machine := watching ⟨200, Vector.replicate 8 7, ⟨true, false, true, true⟩⟩

/-- The machine sees that it has a neighbour, and not which. -/
theorem watching_others_unseen :
    watchingBusy.core.slots.get 1 ≠ watchingIdle.core.slots.get 1 ∧
    watchingIdle.Alike watchingIdle.Fetches watchingBusy ∧
    (∀ j, j < 2 → (watchingIdle.runIn Surroundings.quiet j).Fetches 0) ∧
    (∀ j, j < 2 → (watchingBusy.runIn Surroundings.quiet j).Fetches 0) ∧
    (watchingBusy.runIn Surroundings.quiet 2).core.slots.get 0 =
      (watchingIdle.runIn Surroundings.quiet 2).core.slots.get 0 ∧
    ((watchingIdle.runIn Surroundings.quiet 2).core.slots.get 0).register 0 = 3 := by
  have start : watchingIdle.Fetches 0 := ⟨by decide, by decide, by decide⟩
  have alike : watchingIdle.Alike watchingIdle.Fetches watchingBusy := by
    refine ⟨rfl, ⟨rfl, by decide, fun i hi => ?_⟩, by decide⟩
    obtain rfl : i = 0 := hi.slot.symm.trans start.slot
    decide
  have fetches : ∀ j, j < 2 → (watchingIdle.runIn Surroundings.quiet j).Fetches 0 := by
    have first : (watchingIdle.runIn Surroundings.quiet 0).Fetches 0 := ⟨by decide, by decide, by decide⟩
    have second : (watchingIdle.runIn Surroundings.quiet 1).Fetches 0 := ⟨by decide, by decide, by decide⟩
    intro j hj
    match j, hj with
    | 0, _ => exact first
    | 1, _ => exact second
  obtain ⟨-, run⟩ := others_unseen alike fun _ devices => devices
  obtain ⟨same, leaves⟩ := run 0 2
  obtain ⟨hrun, -⟩ := leaves fetches
  exact ⟨by decide, alike, fetches, same.1 fetches, hrun.core.slots.get 0 start, by decide⟩

end Machine
end CoopCpu
