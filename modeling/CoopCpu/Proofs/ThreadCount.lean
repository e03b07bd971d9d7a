import CoopCpu.Proofs.CounterFloor
import CoopCpu.Proofs.Service
/-!
# Proofs.ThreadCount — how many threads there are

A slot is active as long as its program counter is not 0, so whatever moves a counter could start or end a thread by
accident.  Above a positive base offset nothing does: the fetch and the jumps never bring a counter to 0, a spawn turns
one slot on and a stop turns the running one off (`Core.turnover_of_evaluate`).  The number of threads is therefore one,
and one for every spawn, less one for every stop, in every state of a run (`runIn_threads`).
-/
namespace CoopCpu

/-! ## One instruction -/

/-- What an operation of the thread in slot `running` does to the threads. -/
inductive Turnover (s s' : Slots) (running : SlotIndex) : Operation → Prop
  | started {slot : SlotIndex} (h : s.Switches s' slot true) : Turnover s s' running .spawn
  | ended (h : s.Switches s' running false) (others : 1 < s.activeCount) : Turnover s s' running .stop
  | kept {op : Operation} (spawn : op ≠ .spawn) (stop : op ≠ .stop) (h : ∀ i, s'.activeAt i = s.activeAt i) :
    Turnover s s' running op

/-- The slots before count by their activity alone. -/
theorem Turnover.congr {s s' s₀ : Slots} {running : SlotIndex} {op : Operation} (h : Turnover s s' running op)
    (same : ∀ i, s.activeAt i = s₀.activeAt i) : Turnover s₀ s' running op := by
  cases h with
  | started h => exact .started ⟨(same _).symm.trans h.before, h.after, fun j hj => (h.others j hj).trans (same j)⟩
  | ended h others =>
    refine .ended ⟨(same _).symm.trans h.before, h.after, fun j hj => (h.others j hj).trans (same j)⟩ ?_
    rw [← Slots.activeCount_congr same]
    exact others
  | kept spawn stop h => exact .kept spawn stop fun i => (h i).trans (same i)

namespace Instruction

theorem eq_spawn_of_operation {i : Instruction} (h : i.operation = .spawn) : ∃ target, i = .spawn target := by
  cases i with
  | spawn target => exact ⟨target, rfl⟩
  | _ => cases h

theorem eq_stop_of_operation {i : Instruction} (h : i.operation = .stop) : i = .stop := by
  cases i with
  | stop => rfl
  | _ => cases h

end Instruction

namespace Core

/-- **The fetch starts and ends no thread**: the counter that moves on was not 0 and does not come to 0. -/
theorem activeAt_fetched {c : Core} (ready : c.Ready) (i : SlotIndex) :
    c.fetched.slots.activeAt i = c.slots.activeAt i := by
  by_cases h : i = c.fetchedSlot
  · have hmoved : (c.fetched.slots.get c.fetchedSlot).pc ≠ 0 := by
      intro hzero
      have := fetched_pc ready
      rw [hzero] at this
      simp at this
    rw [h, activeAt_fetchedSlot ready.1, Slots.activeAt_iff]
    exact hmoved
  · rw [fetched_eq, Slots.activeAt_update, if_neg h]

theorem active_fetched (c : Core) : c.fetched.active = c.fetchedSlot := by rw [fetched_eq]

theorem base_fetched (c : Core) : c.fetched.base = c.base := by rw [fetched_eq]

theorem activeAt_updateActive (c : Core) {change : ThreadSlot → ThreadSlot} (h : ∀ t, (change t).pc = t.pc)
    (i : SlotIndex) : (c.updateActive change).slots.activeAt i = c.slots.activeAt i := by
  rw [Bool.eq_iff_iff, Slots.activeAt_iff, Slots.activeAt_iff]
  unfold updateActive
  rw [Slots.reading_update ThreadSlot.pc c.slots c.active i h]

variable {c : Core} {i : Instruction} {effect : Effect}

theorem activeAt_jump (running : c.slots.activeAt c.active = true) {target : Address} (h : target ≠ 0) (j : SlotIndex) :
    (c.apply (.jump target)).slots.activeAt j = c.slots.activeAt j := by
  show (c.slots.update c.active fun t => { t with pc := target }).activeAt j = _
  rw [Slots.activeAt_update]
  by_cases hj : j = c.active
  · rw [if_pos hj, hj, running]
    exact bne_iff_ne.2 h
  · rw [if_neg hj]

theorem switches_retire (running : c.slots.activeAt c.active = true) :
    c.slots.Switches (c.apply .retire).slots c.active false where
  before := running
  after := by
    show (c.slots.update c.active fun t => { t with pc := 0 }).activeAt c.active = false
    rw [Slots.activeAt_update, if_pos rfl]
    rfl
  others j hj := by
    show (c.slots.update c.active fun t => { t with pc := 0 }).activeAt j = _
    rw [Slots.activeAt_update, if_neg hj]

theorem switches_start {slot : SlotIndex} {entry : Address} (free : c.slots.firstInactive = some slot) (h : entry ≠ 0) :
    c.slots.Switches (c.apply (.start slot entry)).slots slot true where
  before := Slots.activeAt_of_firstInactive free
  after := by
    show (c.slots.update slot fun t => { t with pc := entry }).activeAt slot = true
    rw [Slots.activeAt_update, if_pos rfl]
    exact bne_iff_ne.2 h
  others j hj := by
    show (c.slots.update slot fun t => { t with pc := entry }).activeAt j = _
    rw [Slots.activeAt_update, if_neg hj]

theorem ne_zero_of_base_le {base target : Address} (hbase : base ≠ 0) (h : base ≤ target) : target ≠ 0 := by
  rintro rfl
  exact hbase (UInt16.le_antisymm h UInt16.zero_le)

theorem evaluate_spawn_ok {target : Address} (h : c.evaluate (.spawn target) = .ok effect) :
    ∃ slot, c.slots.firstInactive = some slot ∧ effect = .start slot target := by
  obtain ⟨-, -, h⟩ := eq_ok_of_bind h
  cases hfree : c.slots.firstInactive with
  | none => rw [hfree] at h; cases h
  | some slot =>
    rw [hfree] at h
    exact ⟨slot, rfl, (Except.ok.inj h).symm⟩

/-- **Only a spawn starts a thread and only a stop ends one**, its own. -/
theorem turnover_of_evaluate (hbase : c.base ≠ 0) (running : c.slots.activeAt c.active = true)
    (h : c.evaluate i = .ok effect) : Turnover c.slots (c.apply effect).slots c.active i.operation := by
  have hsource := source_of_evaluate h
  by_cases hspawn : i.operation = .spawn
  · obtain ⟨target, rfl⟩ := Instruction.eq_spawn_of_operation hspawn
    obtain ⟨slot, hfree, rfl⟩ := evaluate_spawn_ok h
    exact .started (switches_start hfree (ne_zero_of_base_le hbase hsource.2.1))
  by_cases hstop : i.operation = .stop
  · obtain rfl := Instruction.eq_stop_of_operation hstop
    rw [evaluate] at h
    by_cases hlast : c.slots.activeCount ≤ 1
    · rw [if_pos hlast] at h; cases h
    · rw [if_neg hlast] at h
      cases h
      exact .ended (switches_retire running) (Nat.lt_of_not_le hlast)
  -- any other effect leaves every counter alone, or moves the running one to an address that is not 0
  refine .kept hspawn hstop fun j => ?_
  cases effect with
  | none | handOver | store _ _ => rfl
  | jump target => exact activeAt_jump running (ne_zero_of_base_le hbase hsource.2) j
  | retire => exact absurd (congrArg Instruction.operation hsource.1) hstop
  | start slot entry => exact absurd (congrArg Instruction.operation hsource.1) hspawn
  | setRegister _ _ | setFlags _ | testAndSet _ _ _ =>
    refine c.activeAt_updateActive ?_ j
    exact fun _ => rfl
  | calculate r result =>
    cases result with
    | none | some _ =>
      refine c.activeAt_updateActive ?_ j
      exact fun _ => rfl

variable {t : Table} {c' : Core}

theorem activeAt_of_faulted {fault : Fault} (h : Stepped t c c' (some fault)) (i : SlotIndex) :
    c'.slots.activeAt i = c.slots.activeAt i := by
  cases h with
  | idle _ => rfl
  | atEnd _ _ => rw [handOver_eq]
  | undecoded ready _ => exact activeAt_fetched ready i
  | refused ready _ _ => exact activeAt_fetched ready i

theorem ready_of_done (h : Stepped t c c' none) : c.Ready := by
  cases h with
  | done ready _ _ => exact ready

theorem turnover_of_done (hbase : c.base ≠ 0) (h : Stepped t c c' none) :
    ∃ i, t.decode c.memory c.fetchAddress = .ok i ∧ Turnover c.slots c'.slots c.fetchedSlot i.operation := by
  cases h with
  | @done ready i effect decoded he =>
    have same (j : SlotIndex) : c.fetched.slots.activeAt j = c.slots.activeAt j := activeAt_fetched ready j
    have running : c.fetched.slots.activeAt c.fetched.active = true := by
      rw [same, active_fetched, activeAt_fetchedSlot ready.1]
    have hturnover := turnover_of_evaluate (by rw [base_fetched]; exact hbase) running he
    rw [active_fetched] at hturnover
    exact ⟨i, decoded, hturnover.congr same⟩

end Core

/-! ## One tick -/

namespace Machine

/-- The instruction that the next tick carries out, unless it is halted or its instruction ends with a fault. -/
def completed? (m : Machine) : Option Instruction :=
  if m.halted || m.executed.halted then none else (m.core.fetchInstruction m.table).2.toOption

theorem completed?_of_halted {m : Machine} (h : m.halted = true) : m.completed? = none := by
  unfold completed?
  rw [h]
  rfl

theorem completed?_of_fault {m : Machine} (h : m.executed.halted = true) : m.completed? = none := by
  unfold completed?
  rw [h, Bool.or_true]
  rfl

/-- **The completed instruction is the one carried out**, in a tick whose step has no fault. -/
theorem completed?_eq_some_iff {m : Machine} {i : Instruction} :
    m.completed? = some i ↔ m.Executes i ∧ m.executed.halted = false := by
  unfold completed?
  cases running : m.halted with
  | true => exact ⟨fun h => (by cases h), fun h => absurd (running.symm.trans h.1.running) (by decide)⟩
  | false =>
    cases unfaulted : m.executed.halted with
    | true => exact ⟨fun h => (by cases h), fun h => (by cases h.2)⟩
    | false =>
      have hready : m.core.Ready := by
        have hstepped := m.stepped
        rw [done_of_unfaulted running unfaulted] at hstepped
        exact Core.ready_of_done hstepped
      rw [Core.fetchInstruction_of_ready m.table hready]
      show (m.table.decode m.core.memory m.core.fetchAddress).toOption = some i ↔ _
      constructor
      · intro h
        cases hd : m.table.decode m.core.memory m.core.fetchAddress with
        | error fault => rw [hd] at h; cases h
        | ok j =>
          rw [hd] at h
          cases h
          exact ⟨⟨running, hready, hd⟩, rfl⟩
      · rintro ⟨⟨-, -, hd⟩, -⟩
        rw [hd]
        rfl

/-- **A step without a fault completes an instruction** and applies its effect. -/
theorem completed_of_done {m : Machine} (running : m.halted = false) (h : m.nextStep.2 = none) : ∃ i effect,
    m.completed? = some i ∧ m.core.Ready ∧ m.core.fetched.evaluate i = .ok effect ∧
    m.executed.core = m.core.fetched.apply effect := by
  have hstepped := m.stepped
  rw [h] at hstepped
  obtain ⟨i, effect, ready, decoded, he, hcore⟩ := Core.applied_of_done hstepped
  have unfaulted : m.executed.halted = false := by rw [executed_of_done h]; exact running
  exact ⟨i, effect, completed?_eq_some_iff.2 ⟨⟨running, ready, decoded⟩, unfaulted⟩, ready, he, hcore⟩

theorem slots_tick (m : Machine) : m.halted = false → m.tick.core.slots = m.executed.core.slots := fun running => by
  rw [core_tick m running]

/-- **A tick starts and ends threads as its completed instruction does**, and without one it keeps them. -/
theorem turnover_tick {m : Machine} (hbase : m.core.base ≠ 0) :
    (∃ i, m.completed? = some i ∧ Turnover m.core.slots m.tick.core.slots m.core.fetchedSlot i.operation) ∨
    m.completed? = none ∧ ∀ i, m.tick.core.slots.activeAt i = m.core.slots.activeAt i := by
  cases running : m.halted with
  | true => exact .inr ⟨completed?_of_halted running, fun i => by rw [tick_of_halted running]⟩
  | false =>
    rw [slots_tick m running]
    have hstepped := m.stepped
    cases hfault : m.nextStep.2 with
    | some fault =>
      rw [hfault] at hstepped
      have halted : m.executed.halted = true := (halted_executed_iff running).2 ⟨fault, hfault⟩
      exact .inr ⟨completed?_of_fault halted, Core.activeAt_of_faulted hstepped⟩
    | none =>
      rw [hfault] at hstepped
      obtain ⟨i, decoded, hturnover⟩ := Core.turnover_of_done hbase hstepped
      have unfaulted : m.executed.halted = false := by rw [executed_of_done hfault]; exact running
      exact .inl ⟨i, completed?_eq_some_iff.2 ⟨⟨running, Core.ready_of_done hstepped, decoded⟩, unfaulted⟩, hturnover⟩

end Machine

/-! ## Why a machine halts -/

/-- What a fault tells of the slots at which the machine halts. -/
def Fault.TellsOf (s : Slots) : Fault → Prop
  | .noActiveThreads => False
  | .noInactiveThreads => s.activeCount = 4
  | .onlyOneThreadActive => s.activeCount = 1
  | _ => True

theorem Fault.OfOperand.tellsOf {s : Slots} : ∀ {fault : Fault}, fault.OfOperand → fault.TellsOf s
  | .illegalRegisterRead _, _ | .illegalRegisterWrite _, _ | .illegalJumpTarget _ _, _ | .memoryOutOfBounds _, _ => trivial

theorem Fault.Source.tellsOf {c : Core} {i : Instruction} (some_active : c.slots.activeCount ≠ 0) :
    ∀ {fault : Fault}, fault.Source c i → fault.TellsOf c.slots
  | .haltInstruction, _ | .illegalBitOffset _, _ => trivial
  | .noInactiveThreads, h => Slots.activeCount_of_firstInactive h.2
  | .onlyOneThreadActive, h => Nat.le_antisymm h.2 (Nat.pos_of_ne_zero some_active)
  | .illegalRegisterRead _, _ | .illegalRegisterWrite _, _ | .illegalJumpTarget _ _, _ | .memoryOutOfBounds _, _ => trivial

/-- **The fault of a step tells the truth about the threads** as long as there are any. -/
theorem Core.tellsOf_of_faulted {t : Table} {c c' : Core} {fault : Fault} (some_active : c.slots.activeCount ≠ 0)
    (h : Stepped t c c' (some fault)) : fault.TellsOf c'.slots := by
  cases h with
  | idle hidle => exact absurd hidle some_active
  | atEnd _ _ => trivial
  | undecoded ready hd =>
    rcases t.decode_faults _ _ _ hd with hoperand | ⟨opcode, rfl⟩
    · exact hoperand.tellsOf
    · trivial
  | refused ready decoded he =>
    refine (c.fetched.evaluate_faults _ _ he).tellsOf ?_
    rw [Slots.activeCount_congr (activeAt_fetched ready)]
    exact some_active

namespace Machine

/-- A machine that runs has no reason, and the reason of one that has halted tells the truth about the threads. -/
structure ThreadsTold (m : Machine) : Prop where
  running : m.halted = false → m.reason = none
  told : ∀ fault, m.reason = some fault → fault.TellsOf m.core.slots

theorem threadsTold_serviceDevices {m : Machine} (running : m.halted = false) (h : m.ThreadsTold) :
    m.serviceDevices.ThreadsTold := by
  have hreason := h.running running
  unfold serviceDevices
  cases hs : Device.serviceAll m.core.memory m.devices with
  | mk memory r =>
    obtain ⟨devices, fault?⟩ := r
    cases fault? with
    | none => exact ⟨fun _ => hreason, fun fault hf => by rw [hreason] at hf; cases hf⟩
    | some fault =>
      unfold halt
      simp only [running, Bool.false_eq_true, if_false]
      refine ⟨fun hh => (by cases hh), fun f hf => ?_⟩
      cases hf
      obtain ⟨a, rfl⟩ := Device.outOfBounds_of_fault (congrArg (·.2.2) hs)
      trivial

theorem threadsTold_tick {m : Machine} (some_active : m.core.slots.activeCount ≠ 0) (h : m.ThreadsTold) :
    m.tick.ThreadsTold := by
  cases running : m.halted with
  | true => rw [tick_of_halted running]; exact h
  | false =>
    have hreason := h.running running
    have hstepped := m.stepped
    cases hfault : m.nextStep.2 with
    | some fault =>
      rw [hfault] at hstepped
      have hexecuted := executed_of_fault running hfault
      have halted : m.executed.halted = true := by rw [hexecuted]
      have hrecorded : m.executed.reason = some fault := by rw [hexecuted]
      rw [tick_of_fault running halted]
      refine ⟨fun hh => (by rw [halted] at hh; cases hh), fun f hf => ?_⟩
      obtain rfl : fault = f := Option.some.inj (hrecorded.symm.trans hf)
      exact Core.tellsOf_of_faulted some_active hstepped
    | none =>
      have hexecuted := executed_of_done hfault
      have unfaulted : m.executed.halted = false := by rw [hexecuted]; exact running
      have unreasoned : m.executed.reason = none := by rw [hexecuted]; exact hreason
      rw [tick_of_done running unfaulted]
      exact threadsTold_serviceDevices unfaulted
        ⟨fun _ => unreasoned, fun f hf => by rw [unreasoned] at hf; cases hf⟩

/-! ## A run -/

/-- How many of the first `n` ticks completed an instruction of an operation. -/
def completions (w : Surroundings) (m : Machine) (op : Operation) (n : Nat) : Nat :=
  (List.range n).countP fun k => (m.runIn w k).completed?.map Instruction.operation == some op

theorem completions_succ (w : Surroundings) (m : Machine) (op : Operation) (n : Nat) :
    m.completions w op (n + 1) = m.completions w op n +
      if (m.runIn w n).completed?.map Instruction.operation = some op then 1 else 0 := by
  unfold completions
  rw [List.range_succ, List.countP_append, List.countP_singleton]
  simp only [beq_iff_eq]

/-- **The threads of a run add up**, and there is always one. -/
theorem activeCount_runIn {w : Surroundings} {m : Machine} (one : m.core.slots.activeCount = 1)
    (hbase : ∀ n, (m.runIn w n).core.base ≠ 0) : ∀ n : Nat,
    (m.runIn w n).core.slots.activeCount + m.completions w .stop n = 1 + m.completions w .spawn n ∧
    1 ≤ (m.runIn w n).core.slots.activeCount
  | 0 => ⟨by rw [show (m.runIn w 0).core = m.core from rfl, one]; rfl, Nat.le_of_eq one.symm⟩
  | n + 1 => by
    obtain ⟨hsum, hpos⟩ := activeCount_runIn one hbase n
    have hcore : (m.runIn w (n + 1)).core = (m.runIn w n).tick.core := rfl
    rw [completions_succ, completions_succ, hcore]
    rcases turnover_tick (hbase n) with ⟨i, hi, hturnover⟩ | ⟨hi, hkept⟩
    · rw [hi]
      simp only [Option.map_some, Option.some.injEq]
      generalize i.operation = op at hturnover
      cases hturnover with
      | started h =>
        have hone := h.activeCount_on
        rw [if_neg (by decide), if_pos rfl]
        omega
      | ended h others =>
        have hone := h.activeCount_off
        rw [if_pos rfl, if_neg (by decide)]
        omega
      | kept spawn stop h =>
        rw [if_neg spawn, if_neg stop, Slots.activeCount_congr h]
        exact ⟨hsum, hpos⟩
    · rw [hi, Slots.activeCount_congr hkept]
      exact ⟨hsum, hpos⟩

theorem threadsTold_runIn {w : Surroundings} {m : Machine} (start : m.ThreadsTold)
    (some_active : ∀ n, (m.runIn w n).core.slots.activeCount ≠ 0) : ∀ n : Nat, (m.runIn w n).ThreadsTold
  | 0 => ⟨start.running, start.told⟩
  | n + 1 => by
    have h := threadsTold_tick (some_active n) (threadsTold_runIn start some_active n)
    exact ⟨h.running, h.told⟩

theorem ended_by_stop {m : Machine} (hbase : m.core.base ≠ 0) {i : SlotIndex} (before : m.core.slots.activeAt i = true)
    (after : m.tick.core.slots.activeAt i = false) : m.completed? = some .stop ∧ i = m.core.fetchedSlot := by
  rcases turnover_tick hbase with ⟨instruction, hi, hturnover⟩ | ⟨-, hkept⟩
  · generalize hop : instruction.operation = op at hturnover
    cases hturnover with
    | @started slot h =>
      by_cases hslot : i = slot
      · rw [hslot, h.after] at after; cases after
      · rw [h.others i hslot, before] at after; cases after
    | ended h others =>
      obtain rfl := Instruction.eq_stop_of_operation hop
      refine ⟨hi, Classical.byContradiction fun hne => ?_⟩
      rw [h.others i hne, before] at after
      cases after
    | kept _ _ h => rw [h i, before] at after; cases after
  · rw [hkept i, before] at after; cases after

theorem started_by_spawn {m : Machine} (hbase : m.core.base ≠ 0) {i : SlotIndex}
    (before : m.core.slots.activeAt i = false) (after : m.tick.core.slots.activeAt i = true) :
    ∃ target, m.completed? = some (.spawn target) := by
  rcases turnover_tick hbase with ⟨instruction, hi, hturnover⟩ | ⟨-, hkept⟩
  · generalize hop : instruction.operation = op at hturnover
    cases hturnover with
    | started h =>
      obtain ⟨target, rfl⟩ := Instruction.eq_spawn_of_operation hop
      exact ⟨target, hi⟩
    | ended h others =>
      by_cases hslot : i = m.core.fetchedSlot
      · rw [hslot, h.after] at after; cases after
      · rw [h.others i hslot, before] at after; cases after
    | kept _ _ h => rw [h i, before] at after; cases after
  · rw [hkept i, before] at after; cases after

/-- **The threads of a machine are accounted for.**  Built with a positive base offset, it has one thread, and one for every
spawn it completed, less one for every stop, and never none.  A slot ends by its own stop and starts by a spawn.  So no
machine halts for want of threads; it halts at a spawn with four of them and at a stop with one. -/
theorem runIn_threads {base : Address} {m : Machine} (built : BuiltWith base m) (positive : 0 < base) (w : Surroundings)
    (n : Nat) :
    (m.runIn w n).core.slots.activeCount + m.completions w .stop n = 1 + m.completions w .spawn n ∧
    1 ≤ (m.runIn w n).core.slots.activeCount ∧ (m.runIn w n).core.slots.activeCount ≤ 4 ∧
    (∀ i, (m.runIn w n).core.slots.activeAt i = true → (m.runIn w (n + 1)).core.slots.activeAt i = false →
      (m.runIn w n).completed? = some .stop ∧ i = (m.runIn w n).core.fetchedSlot) ∧
    (∀ i, (m.runIn w n).core.slots.activeAt i = false → (m.runIn w (n + 1)).core.slots.activeAt i = true →
      ∃ target, (m.runIn w n).completed? = some (.spawn target)) ∧
    (m.runIn w n).reason ≠ some .noActiveThreads ∧
    ((m.runIn w n).reason = some .noInactiveThreads → (m.runIn w n).core.slots.activeCount = 4) ∧
    ((m.runIn w n).reason = some .onlyOneThreadActive → (m.runIn w n).core.slots.activeCount = 1) := by
  have hne : base ≠ 0 := fun h => by rw [h] at positive; exact absurd positive (by decide)
  have hbase (k : Nat) : (m.runIn w k).core.base ≠ 0 := by
    rw [(core_runIn_induction w built.aboveBase aboveBase_tick k).base_eq]
    exact hne
  obtain ⟨memory, table, rfl⟩ := built.eq_new
  have start : (Machine.new memory base table).ThreadsTold := ⟨fun _ => rfl, fun _ h => by cases h⟩
  have one : (Machine.new memory base table).core.slots.activeCount = 1 := Slots.activeCount_starting hne
  have hcount := activeCount_runIn one hbase
  have htold := threadsTold_runIn start (fun k => Nat.ne_of_gt (hcount k).2) n
  exact ⟨(hcount n).1, (hcount n).2, Slots.activeCount_le _, fun i => ended_by_stop (hbase n),
    fun i => started_by_spawn (hbase n), htold.told _, htold.told _, htold.told _⟩

/-- A machine whose every thread starts another one. -/
def breeding : Machine := Machine.new ⟨#[0, 0, 0, 0, 3, 0, 4, 0]⟩ 4 Table.builtIn

theorem breeding_threads : BuiltWith 4 breeding ∧ (0 : Address) < 4 ∧
    (breeding.runIn Surroundings.quiet 4).core.slots.activeCount + breeding.completions Surroundings.quiet .stop 4 =
      1 + breeding.completions Surroundings.quiet .spawn 4 ∧
    (breeding.runIn Surroundings.quiet 4).reason = some .noInactiveThreads ∧
    (breeding.runIn Surroundings.quiet 4).core.slots.activeCount = 4 := by
  have built : BuiltWith 4 breeding := .new _ _
  have positive : (0 : Address) < 4 := by decide
  have full : (breeding.runIn Surroundings.quiet 4).reason = some .noInactiveThreads := by decide
  obtain ⟨sum, -, -, -, -, -, atFull, -⟩ := runIn_threads built positive Surroundings.quiet 4
  exact ⟨built, positive, sum, full, atFull full⟩

example : breeding.completions Surroundings.quiet .spawn 4 = 3 := by decide

end Machine
end CoopCpu
