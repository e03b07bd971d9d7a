import CoopCpu.Eager
import CoopCpu.Proofs.ThreadCount
/-!
# Proofs.EagerStop — a stop may look for the next thread now or leave it to the fetch

The machine whose stop looks for the next active slot differs from the machine as it is in the number of the active slot
alone, and in that only between a stop and the next fetch (`eager_stop_agrees`).  The two cores of a run keep having
the same slot to fetch next (`Core.SameTurn`): the search that the stop begins and the search that the fetch begins one
slot later end at the same slot.
-/
namespace CoopCpu
namespace Core

variable {c c' : Core} {t : Table}

/-- The cores differ at most in their active slot, and fetch for the same slot. -/
structure SameTurn (c c' : Core) : Prop where
  same : c' = { c with active := c'.active }
  fetchedSlot : c'.fetchedSlot = c.fetchedSlot
  /-- A core without threads does not look for one. -/
  idle : c.slots.activeCount = 0 → c'.active = c.active

namespace SameTurn

theorem refl (c : Core) : SameTurn c c := ⟨rfl, rfl, fun _ => rfl⟩

theorem slots (h : SameTurn c c') : c'.slots = c.slots := by rw [h.same]

theorem withMemory (h : SameTurn c c') (memory : Memory) : SameTurn { c with memory } { c' with memory } where
  same := by rw [h.same]
  fetchedSlot := by
    have := h.fetchedSlot
    rw [fetchedSlot_eq, fetchedSlot_eq] at this ⊢
    exact this
  idle := h.idle

theorem handOver (h : SameTurn c c') : c'.handOver = c.handOver := by
  rw [handOver_eq, handOver_eq, h.fetchedSlot, h.same]

/-- **Cores that have the same turn fetch the same**: the slot, the address and what the fetch leaves. -/
theorem fetch (h : SameTurn c c') : c'.fetch = c.fetch := by
  by_cases none_active : c.slots.activeCount = 0
  · have heq : c' = c := by rw [h.same, h.idle none_active]
    rw [heq]
  · unfold Core.fetch
    rw [h.slots, if_neg none_active, if_neg none_active, h.handOver]

theorem stepBy (h : SameTurn c c') (perform : Instruction → Action Unit) (t : Table) :
    c'.stepBy perform t = c.stepBy perform t := by
  unfold Core.stepBy fetchInstruction
  rw [h.fetch]

end SameTurn

/-! ## The one instruction that differs -/

/-- The core after a stop that hands over to the next active slot. -/
def retireEagerly (c : Core) : Core :=
  { c.apply .retire with active := (c.apply .retire).slots.nextRunnable c.active }

theorem run_stopEagerly (c : Core) : Action.stopEagerly.run c =
    if c.slots.activeCount ≤ 1 then (.error .onlyOneThreadActive, c) else (.ok (), c.retireEagerly) := by
  unfold Action.stopEagerly
  rw [Action.run_get_bind]
  by_cases h : c.slots.activeCount ≤ 1
  · rw [if_pos h, if_pos h]; rfl
  · rw [if_neg h, if_neg h]; rfl

theorem fetchInstruction_ok {i : Instruction} (h : c.fetchInstruction t = (c', .ok i)) :
    c.Ready ∧ c' = c.fetched ∧ t.decode c.memory c.fetchAddress = .ok i := by
  have ready : c.Ready := by
    cases hf : c.fetch.2 with
    | ok a => exact (ready_of_fetch hf).1
    | error fault =>
      have hsnd : (c.fetchInstruction t).2 = .error fault := by
        unfold fetchInstruction
        cases hfetch : c.fetch with
        | mk c₁ outcome =>
          rw [hfetch] at hf
          subst hf
          rfl
      rw [h] at hsnd
      cases hsnd
  rw [fetchInstruction_of_ready t ready] at h
  obtain ⟨hcore, hdecode⟩ := Prod.mk.inj h
  exact ⟨ready, hcore.symm, hdecode⟩

theorem executeBy_performEagerly (c : Core) (i : Instruction) :
    c.executeBy Action.performEagerly i = c.execute i ∨
    i = .stop ∧ 1 < c.slots.activeCount ∧ c.execute i = (c.apply .retire, none) ∧
      c.executeBy Action.performEagerly i = (c.retireEagerly, none) := by
  cases i with
  | stop =>
    unfold executeBy
    rw [show Action.performEagerly .stop = Action.stopEagerly from rfl, run_stopEagerly]
    by_cases last : c.slots.activeCount ≤ 1
    · have hfault : c.evaluate .stop = .error .onlyOneThreadActive := if_pos last
      rw [if_pos last, execute_of_error hfault]
      exact .inl rfl
    · have heffect : c.evaluate .stop = .ok .retire := if_neg last
      rw [if_neg last, execute_of_ok heffect]
      exact .inr ⟨rfl, Nat.lt_of_not_le last, rfl, rfl⟩
  | _ => exact .inl rfl

/-- **A step with an eager stop is a step**, unless it completes a stop. -/
theorem stepBy_performEagerly (t : Table) (c : Core) : c.stepBy Action.performEagerly t = c.step t ∨
    c.Ready ∧ t.decode c.memory c.fetchAddress = .ok .stop ∧ 1 < c.fetched.slots.activeCount ∧
      c.step t = (c.fetched.apply .retire, none) ∧
      c.stepBy Action.performEagerly t = (c.fetched.retireEagerly, none) := by
  unfold stepBy step
  cases h : c.fetchInstruction t with
  | mk c' outcome =>
    cases outcome with
    | error fault => exact .inl rfl
    | ok i =>
      obtain ⟨ready, rfl, decoded⟩ := fetchInstruction_ok h
      rcases executeBy_performEagerly c.fetched i with hsame | ⟨rfl, others, hlazy, heager⟩
      · exact .inl hsame
      · exact .inr ⟨ready, decoded, others, hlazy, heager⟩

/-- **Both ways of stopping leave the same turn.**  One search begins behind the slot that stopped, the other one slot
later, and only if that slot is inactive. -/
theorem sameTurn_retire (running : c.slots.activeAt c.active = true) (others : 1 < c.slots.activeCount) :
    SameTurn (c.apply .retire) c.retireEagerly := by
  have left_active : (c.apply .retire).slots.activeCount ≠ 0 := by
    have := (switches_retire running).activeCount_off
    omega
  refine ⟨rfl, ?_, fun h => absurd h left_active⟩
  have found := Slots.activeAt_nextRunnable left_active c.active
  have heager : c.retireEagerly.fetchedSlot = (c.apply .retire).slots.nextRunnable c.active := by
    rw [fetchedSlot_eq]
    exact if_pos found
  have hlazy : (c.apply .retire).fetchedSlot =
      if (c.apply .retire).slots.activeAt (c.active + 1) then c.active + 1
      else (c.apply .retire).slots.nextRunnable (c.active + 1) := fetchedSlot_eq _
  rw [heager, hlazy]
  cases behind : (c.apply .retire).slots.activeAt (c.active + 1) with
  | true => exact Slots.nextRunnable_of_activeAt behind
  | false => exact (Slots.nextRunnable_succ left_active behind).symm

end Core

/-! ## One tick -/

namespace Machine

variable {m m' : Machine}

/-- The machine with another slot active. -/
def withActive (m : Machine) (i : SlotIndex) : Machine := { m with core := { m.core with active := i } }

structure InStep (m m' : Machine) : Prop where
  same : m' = { m with core := m'.core }
  turn : m.core.SameTurn m'.core

namespace InStep

theorem refl (m : Machine) : InStep m m := ⟨rfl, .refl m.core⟩

theorem withDevices (h : InStep m m') (devices : List Device) : InStep { m with devices } { m' with devices } where
  same := by rw [h.same]
  turn := h.turn

theorem withActive_eq (h : InStep m m') : m' = m.withActive m'.core.active := by
  have hcore := h.turn.same
  rw [h.same, hcore]
  rfl

theorem serviceDevices (h : InStep m m') (running : m.halted = false) :
    InStep m.serviceDevices m'.serviceDevices := by
  have hmemory : m'.core.memory = m.core.memory := by rw [h.turn.same]
  have hcore : m'.serviceDevices.core = { m'.core with memory := m.serviceDevices.core.memory } := by
    rw [serviceDevices_core, serviceDevices_core, hmemory, h.same]
  constructor
  · rw [hcore, h.same]
    unfold Machine.serviceDevices
    rw [hmemory]
    cases Device.serviceAll m.core.memory m.devices with
    | mk memory r =>
      obtain ⟨devices, fault?⟩ := r
      cases fault? with
      | none => rfl
      | some fault =>
        unfold Machine.halt
        simp only [running, Bool.false_eq_true, if_false]
  · rw [hcore, serviceDevices_core]
    exact h.turn.withMemory _

theorem tickBy (h : InStep m m') (perform : Instruction → Action Unit) (running : m.halted = false) :
    m'.tickBy perform = m.tickBy perform := by
  have hexecuted : m'.executedBy perform = m.executedBy perform := by
    unfold executedBy
    rw [h.turn.stepBy, h.same]
  have running' : m'.halted = false := by rw [h.same]; exact running
  unfold Machine.tickBy
  simp only [hexecuted, running, running', Bool.false_eq_true, if_false]

end InStep

theorem tickBy_of_halted (perform : Instruction → Action Unit) (h : m.halted = true) : m.tickBy perform = m := if_pos h

theorem tickBy_congr {perform perform' : Instruction → Action Unit}
    (h : m.executedBy perform = m.executedBy perform') : m.tickBy perform = m.tickBy perform' := by
  unfold tickBy
  rw [h]

/-- **Machines in step stay in step**, and agree in everything unless the tick completes a stop. -/
theorem InStep.tick (h : InStep m m') (running : m.halted = false) :
    (m.completed? ≠ some .stop → m'.tickBy Action.performEagerly = m.tick) ∧
    InStep m.tick (m'.tickBy Action.performEagerly) := by
  rw [h.tickBy Action.performEagerly running]
  rcases Core.stepBy_performEagerly m.table m.core with hsame | ⟨ready, decoded, others, hlazy, heager⟩
  · have hexecuted : m.executedBy Action.performEagerly = m.executedBy Action.perform := by
      unfold executedBy
      rw [hsame, Core.stepBy_perform]
    rw [tickBy_congr hexecuted, tickBy_perform]
    exact ⟨fun _ => rfl, .refl m.tick⟩
  · have hexecuted : m.executed = { m with core := m.core.fetched.apply .retire } := by
      unfold executed
      rw [hlazy]
    have hexecuted' : m.executedBy Action.performEagerly = { m with core := m.core.fetched.retireEagerly } := by
      unfold executedBy
      rw [heager]
    have unfaulted : m.executed.halted = false := by rw [hexecuted]; exact running
    have completed : m.completed? = some .stop := completed?_eq_some_iff.2 ⟨⟨running, ready, decoded⟩, unfaulted⟩
    have active : m.core.fetched.slots.activeAt m.core.fetched.active = true := by
      rw [Core.activeAt_fetched ready, Core.active_fetched, Core.activeAt_fetchedSlot ready.1]
    have turn : InStep m.executed (m.executedBy Action.performEagerly) := by
      rw [hexecuted, hexecuted']
      exact ⟨rfl, Core.sameTurn_retire active others⟩
    have htick : m.tickBy Action.performEagerly = (m.executedBy Action.performEagerly).serviceDevices := by
      unfold Machine.tickBy
      rw [hexecuted']
      simp only [running, Bool.false_eq_true, if_false]
    refine ⟨fun hne => absurd completed hne, ?_⟩
    rw [tick_of_done running unfaulted, htick]
    exact turn.serviceDevices unfaulted

theorem InStep.next (h : InStep m m') (happenings : Happenings) (n : Nat) :
    InStep { m.tick with devices := happenings n m.tick.devices }
      { m'.tickBy Action.performEagerly with
        devices := happenings n (m'.tickBy Action.performEagerly).devices } := by
  have hnext : InStep m.tick (m'.tickBy Action.performEagerly) := by
    cases running : m.halted with
    | false => exact (h.tick running).2
    | true =>
      have halted : m'.halted = true := by rw [h.same]; exact running
      rw [tick_of_halted running, tickBy_of_halted _ halted]
      exact h
  have hdevices : (m'.tickBy Action.performEagerly).devices = m.tick.devices := by rw [hnext.same]
  rw [hdevices]
  exact hnext.withDevices _

/-! ## A run -/

theorem inStep_run (h : Happenings) (m : Machine) : ∀ n : Nat,
    InStep (m.runIn h.surroundings n) (m.runBy Action.performEagerly h.surroundings n)
  | 0 => .refl _
  | n + 1 => (inStep_run h m n).next h (n + 1)

theorem run_eq_of_tick (h : Happenings) (m : Machine) {n : Nat} (running : (m.runIn h.surroundings n).halted = false)
    (completed : (m.runIn h.surroundings n).completed? ≠ some .stop) :
    m.runBy Action.performEagerly h.surroundings (n + 1) = m.runIn h.surroundings (n + 1) := by
  have htick := ((inStep_run h m n).tick running).1 completed
  have heager : m.runBy Action.performEagerly h.surroundings (n + 1) =
      { (m.runBy Action.performEagerly h.surroundings n).tickBy Action.performEagerly with
        devices := h (n + 1) ((m.runBy Action.performEagerly h.surroundings n).tickBy Action.performEagerly).devices } :=
    rfl
  rw [heager, htick]
  rfl

/-- The number of a tick that completed a stop and was the last one of a running machine. -/
def LastStop (w : Surroundings) (m : Machine) (n k : Nat) : Prop :=
  k < n ∧ (m.runIn w k).completed? = some .stop ∧ ∀ j, k < j → j < n → (m.runIn w j).halted = true

theorem lastStop_of_active_ne (h : Happenings) (m : Machine) : ∀ {n : Nat},
    (m.runBy Action.performEagerly h.surroundings n).core.active ≠ (m.runIn h.surroundings n).core.active →
    ∃ k, m.LastStop h.surroundings n k
  | 0, hne => absurd rfl hne
  | n + 1, hne => by
    cases running : (m.runIn h.surroundings n).halted with
    | false =>
      by_cases completed : (m.runIn h.surroundings n).completed? = some .stop
      · exact ⟨n, Nat.lt_succ_self n, completed, fun j hnj hjn => by omega⟩
      · exact absurd (congrArg (fun m => m.core.active) (run_eq_of_tick h m running completed)) hne
    | true =>
      have halted : (m.runBy Action.performEagerly h.surroundings n).halted = true := by
        rw [(inStep_run h m n).same]
        exact running
      change ((m.runBy Action.performEagerly h.surroundings n).tickBy Action.performEagerly).core.active ≠
        (m.runIn h.surroundings n).tick.core.active at hne
      rw [tick_of_halted running, tickBy_of_halted _ halted] at hne
      obtain ⟨k, hk, completed, last⟩ := lastStop_of_active_ne h m hne
      refine ⟨k, Nat.lt_succ_of_lt hk, completed, fun j hkj hjn => ?_⟩
      rcases Nat.lt_succ_iff_lt_or_eq.1 hjn with hj | rfl
      · exact last j hkj hj
      · exact running

/-- **A stop may look for the next thread at once or leave it to the fetch.**  After any number of ticks the two machines
agree in everything but the number of the active slot, and each tick fetches for the same slot at the same address.  The
active slots differ only as long as the last tick that did anything completed a stop; after any other tick of a running
machine, with a fault or without, they are the same again. -/
theorem eager_stop_agrees (h : Happenings) (m : Machine) (n : Nat) :
    let lazy := fun k => m.runIn h.surroundings k
    let eager := fun k => m.runBy Action.performEagerly h.surroundings k
    eager n = (lazy n).withActive (eager n).core.active ∧
    (eager n).core.fetchedSlot = (lazy n).core.fetchedSlot ∧ (eager n).core.fetch = (lazy n).core.fetch ∧
    ((eager n).core.active ≠ (lazy n).core.active → ∃ k, m.LastStop h.surroundings n k) ∧
    ((lazy n).halted = false → (lazy n).completed? ≠ some .stop → eager (n + 1) = lazy (n + 1)) := by
  have hrun := inStep_run h m n
  exact ⟨hrun.withActive_eq, hrun.turn.fetchedSlot, hrun.turn.fetch, lastStop_of_active_ne h m, run_eq_of_tick h m⟩

/-- A machine whose second thread ends at once, with two empty slots behind it. -/
def retiring : Machine := Machine.new ⟨#[0, 0, 0, 0, 3, 0, 8, 0, 2, 0, 0, 0]⟩ 4 Table.builtIn

/-- After the stop the two machines have different slots at hand, and the stop of the last thread, which is refused, brings
them together. -/
theorem retiring_stop_agrees :
    (retiring.runIn Surroundings.quiet 2).core.active = 2 ∧
    (retiring.runBy Action.performEagerly Surroundings.quiet 2).core.active = 0 ∧
    (∃ k, retiring.LastStop Surroundings.quiet 2 k) ∧
    (retiring.runIn Surroundings.quiet 2).halted = false ∧
    (retiring.runIn Surroundings.quiet 2).completed? ≠ some .stop ∧
    retiring.runBy Action.performEagerly Surroundings.quiet 3 = retiring.runIn Surroundings.quiet 3 := by
  have hlazy : (retiring.runIn Surroundings.quiet 2).core.active = 2 := by decide
  have heager : (retiring.runBy Action.performEagerly Surroundings.quiet 2).core.active = 0 := by decide
  have running : (retiring.runIn Surroundings.quiet 2).halted = false := by decide
  have refused : (retiring.runIn Surroundings.quiet 2).completed? ≠ some .stop := by decide
  obtain ⟨-, -, -, differ, agree⟩ := eager_stop_agrees (fun _ devices => devices) retiring 2
  have hne : (retiring.runBy Action.performEagerly Surroundings.quiet 2).core.active ≠
      (retiring.runIn Surroundings.quiet 2).core.active := by rw [hlazy, heager]; decide
  exact ⟨hlazy, heager, differ hne, running, refused, agree running refused⟩

end Machine
end CoopCpu
