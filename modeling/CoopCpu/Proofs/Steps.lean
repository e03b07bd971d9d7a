import CoopCpu.Proofs.Effects
/-!
# Proofs.Steps — all the ways in which one step of a core can go

A step first looks for a slot to run, then moves its program counter on, then decodes, and only then is there an
instruction to carry out.  `Stepped` lists what can come of it, and `stepped` says that nothing else can.
-/
namespace CoopCpu

theorem eq_ok_of_bind {ε α β : Type} {x : Except ε α} {f : α → Except ε β} {b : β} (h : x >>= f = .ok b) :
    ∃ a, x = .ok a ∧ f a = .ok b := by
  cases x with
  | ok a => exact ⟨a, rfl, h⟩
  | error fault => cases h

theorem eq_error_of_bind {α β : Type} {x : Except Fault α} {f : α → Except Fault β} {fault : Fault}
    (h : x >>= f = .error fault) : x = .error fault ∨ ∃ a, x = .ok a ∧ f a = .error fault := by
  cases x with
  | ok a => exact .inr ⟨a, rfl, h⟩
  | error e => exact .inl (by cases h; rfl)

namespace Core

/-! ## The fetch -/

/-- The address of the instruction that comes next. -/
def fetchAddress (c : Core) : Address := (c.slots.get c.fetchedSlot).pc

/-- The core whose fetched slot runs, with its program counter past the instruction. -/
def fetched (c : Core) : Core := c.handOver.advance

/-- There is an instruction to fetch. -/
def Ready (c : Core) : Prop := c.slots.activeCount ≠ 0 ∧ c.fetchAddress.toNat + 4 < 65536

theorem fetchedSlot_eq (c : Core) :
    c.fetchedSlot = if c.slots.activeAt c.active then c.active else c.slots.nextRunnable c.active := by
  unfold fetchedSlot handOver
  show (if c.slots.activeAt c.active then c else { c with active := c.slots.nextRunnable c.active }).active = _
  by_cases h : c.slots.activeAt c.active = true
  · rw [if_pos h, if_pos h]
  · rw [if_neg h, if_neg h]

theorem handOver_eq (c : Core) : c.handOver = { c with active := c.fetchedSlot } := by
  unfold fetchedSlot handOver
  by_cases h : c.activeSlot.isActive = true
  · rw [if_pos h]
  · rw [if_neg h]

theorem fetched_eq (c : Core) :
    c.fetched = { c with
      slots := c.slots.update c.fetchedSlot fun t => { t with pc := t.pc + 4 }
      active := c.fetchedSlot } := by
  unfold fetched
  rw [handOver_eq]
  rfl

theorem fetched_memory (c : Core) : c.fetched.memory = c.memory := by rw [fetched_eq]

/-- **The fetched slot is active** unless no slot is. -/
theorem activeAt_fetchedSlot {c : Core} (h : c.slots.activeCount ≠ 0) : c.slots.activeAt c.fetchedSlot = true := by
  rw [fetchedSlot_eq]
  by_cases ha : c.slots.activeAt c.active = true
  · rw [if_pos ha]; exact ha
  · rw [if_neg ha]; exact Slots.activeAt_nextRunnable h c.active

theorem fetchAddress_ne_zero {c : Core} (h : c.slots.activeCount ≠ 0) : c.fetchAddress ≠ 0 :=
  (Slots.activeAt_iff c.slots c.fetchedSlot).1 (activeAt_fetchedSlot h)

theorem activeSlot_handOver (c : Core) : c.handOver.activeSlot = c.slots.get c.fetchedSlot := by
  rw [handOver_eq]
  rfl

theorem fetch_of_ready {c : Core} (h : c.Ready) : c.fetch = (c.fetched, .ok c.fetchAddress) := by
  unfold fetch
  rw [if_neg h.1]
  simp only [activeSlot_handOver]
  exact if_pos h.2

theorem fetch_of_end {c : Core} (active : c.slots.activeCount ≠ 0) (past : ¬ c.fetchAddress.toNat + 4 < 65536) :
    c.fetch = (c.handOver, .error (.programCounterOverflow c.fetchAddress)) := by
  unfold fetch
  rw [if_neg active]
  simp only [activeSlot_handOver]
  exact if_neg past

theorem ready_of_fetch {c : Core} {a : Address} (h : c.fetch.2 = .ok a) : c.Ready ∧ a = c.fetchAddress := by
  by_cases active : c.slots.activeCount = 0
  · have hfetch : c.fetch = (c, .error .noActiveThreads) := if_pos active
    rw [hfetch] at h
    cases h
  · by_cases room : c.fetchAddress.toNat + 4 < 65536
    · have ready : c.Ready := ⟨active, room⟩
      rw [fetch_of_ready ready] at h
      exact ⟨ready, (Except.ok.inj h).symm⟩
    · rw [fetch_of_end active room] at h
      cases h

/-- The program counter of the fetched slot moves on by 4, without going round the end of the address space. -/
theorem fetched_pc {c : Core} (h : c.Ready) :
    (c.fetched.slots.get c.fetchedSlot).pc.toNat = c.fetchAddress.toNat + 4 := by
  rw [fetched_eq, Slots.get_update_self]
  show (c.fetchAddress + 4).toNat = _
  rw [UInt16.toNat_add]
  exact Nat.mod_eq_of_lt h.2

/-! ## The step -/

/-- How a step of a core under a table can go: the core after it, and the fault if it ended with one. -/
inductive Stepped (t : Table) (c : Core) : Core → Option Fault → Prop
  | idle (h : c.slots.activeCount = 0) : Stepped t c c (some .noActiveThreads)
  | atEnd (active : c.slots.activeCount ≠ 0) (past : 65536 ≤ c.fetchAddress.toNat + 4) :
    Stepped t c c.handOver (some (.programCounterOverflow c.fetchAddress))
  | undecoded (ready : c.Ready) {fault : Fault} (h : t.decode c.memory c.fetchAddress = .error fault) :
    Stepped t c c.fetched (some fault)
  | refused (ready : c.Ready) {i : Instruction} {fault : Fault} (decoded : t.decode c.memory c.fetchAddress = .ok i)
    (h : c.fetched.evaluate i = .error fault) : Stepped t c c.fetched (some fault)
  | done (ready : c.Ready) {i : Instruction} {effect : Effect} (decoded : t.decode c.memory c.fetchAddress = .ok i)
    (h : c.fetched.evaluate i = .ok effect) : Stepped t c (c.fetched.apply effect) none

theorem execute_of_ok {c : Core} {i : Instruction} {effect : Effect} (h : c.evaluate i = .ok effect) :
    c.execute i = (c.apply effect, none) := by
  unfold execute
  rw [Action.run_perform, h]
  rfl

theorem execute_of_error {c : Core} {i : Instruction} {fault : Fault} (h : c.evaluate i = .error fault) :
    c.execute i = (c, some fault) := by
  unfold execute
  rw [Action.run_perform, h]
  rfl

theorem fetchInstruction_of_ready (t : Table) {c : Core} (h : c.Ready) :
    c.fetchInstruction t = (c.fetched, t.decode c.memory c.fetchAddress) := by
  unfold fetchInstruction
  rw [fetch_of_ready h]
  simp only [fetched_memory]

theorem step_of_idle (t : Table) {c : Core} (h : c.slots.activeCount = 0) : c.step t = (c, some .noActiveThreads) := by
  unfold step fetchInstruction fetch
  rw [if_pos h]

theorem step_of_end (t : Table) {c : Core} (active : c.slots.activeCount ≠ 0)
    (past : ¬ c.fetchAddress.toNat + 4 < 65536) :
    c.step t = (c.handOver, some (.programCounterOverflow c.fetchAddress)) := by
  unfold step fetchInstruction
  rw [fetch_of_end active past]

/-- What the instruction that comes next comes to. -/
def outcome (t : Table) (c : Core) : Except Fault Effect := do c.fetched.evaluate (← t.decode c.memory c.fetchAddress)

theorem step_of_ready (t : Table) {c : Core} (h : c.Ready) : c.step t =
    match c.outcome t with
    | .ok effect => (c.fetched.apply effect, none)
    | .error fault => (c.fetched, some fault) := by
  unfold step outcome
  rw [fetchInstruction_of_ready t h]
  cases t.decode c.memory c.fetchAddress with
  | error fault => rfl
  | ok i =>
    show c.fetched.execute i = match c.fetched.evaluate i with | .ok effect => _ | .error fault => _
    cases he : c.fetched.evaluate i with
    | error fault => exact execute_of_error he
    | ok effect => exact execute_of_ok he

/-- **A step goes in one of five ways.** -/
theorem stepped (t : Table) (c : Core) : Stepped t c (c.step t).1 (c.step t).2 := by
  by_cases hactive : c.slots.activeCount = 0
  · rw [step_of_idle t hactive]
    exact .idle hactive
  · by_cases hend : c.fetchAddress.toNat + 4 < 65536
    · have hready : c.Ready := ⟨hactive, hend⟩
      unfold step
      rw [fetchInstruction_of_ready t hready]
      cases hd : t.decode c.memory c.fetchAddress with
      | error fault => exact .undecoded hready hd
      | ok i =>
        cases he : c.fetched.evaluate i with
        | error fault =>
          simp only [execute_of_error he]
          exact .refused hready hd he
        | ok effect =>
          simp only [execute_of_ok he]
          exact .done hready hd he
    · rw [step_of_end t hactive hend]
      exact .atEnd hactive (Nat.le_of_not_lt hend)

theorem applied_of_done {t : Table} {c c' : Core} (h : Stepped t c c' none) : ∃ i effect, c.Ready ∧
    t.decode c.memory c.fetchAddress = .ok i ∧ c.fetched.evaluate i = .ok effect ∧ c' = c.fetched.apply effect := by
  cases h with
  | done ready decoded he => exact ⟨_, _, ready, decoded, he, rfl⟩

end Core
end CoopCpu
