import CoopCpu.Proofs.Service
import CoopCpu.Proofs.Setup
/-!
# Proofs.LargerMemory — a program that stays in its memory goes the same way in a larger one

A memory that has more zeros at its end reads and writes like the smaller one as long as the smaller one can be read and
written at all.  So every reading of the larger machine is the same as that of the smaller one, unless the smaller one goes
beyond the end (`Reading.Extends`): what the next instruction comes to (`Core.outcome_enlarged`), and with it a step, a
round of service, a tick (`tick_enlarged`) and a run (`runIn_enlarged`).  Two machines from settings that differ in the size
of memory begin as one and its enlargement, and so they stay (`larger_memory_unseen`).
-/
namespace CoopCpu

/-- The fault is of an access beyond the end of memory. -/
def Fault.OutOfMemory (fault : Fault) : Prop := ∃ position, fault = .memoryOutOfBounds position

/-- The second reading is the first one, unless the first goes beyond the end of memory. -/
def Reading.Extends {α : Type} (x x' : Except Fault α) : Prop := x' = x ∨ ∃ fault, x = .error fault ∧ fault.OutOfMemory

namespace Reading.Extends

variable {α β : Type}

theorem refl (x : Except Fault α) : Extends x x := .inl rfl

theorem bind {x x' : Except Fault α} {f f' : α → Except Fault β} (hx : Extends x x')
    (hf : ∀ a, Extends (f a) (f' a)) : Extends (x >>= f) (x' >>= f') := by
  rcases hx with rfl | ⟨fault, rfl, h⟩
  · cases x' with
    | ok a => exact hf a
    | error fault => exact .inl rfl
  · exact .inr ⟨fault, rfl, h⟩

end Reading.Extends

open Reading (Extends)

variable {extra : Nat}

/-! ## Memory -/

namespace Memory

/-- The memory with so many more zeros at its end. -/
def enlarged (m : Memory) (extra : Nat) : Memory := ⟨m.bytes ++ Array.replicate extra 0⟩

variable {m : Memory} {a : Address}

theorem size_enlarged (m : Memory) (extra : Nat) : (m.enlarged extra).size = m.size + extra := by
  unfold enlarged size
  rw [Array.size_append, Array.size_replicate]

theorem get?_enlarged (h : a.toNat < m.size) : (m.enlarged extra).get? a = m.get? a := Array.getElem?_append_left h

theorem set_enlarged (h : a.toNat < m.size) (value : Byte) :
    (m.enlarged extra).set a value = (m.set a value).enlarged extra :=
  congrArg Memory.mk (Array.setIfInBounds_append_left h)

theorem enlarged_holding (base : Nat) {image : Array Byte} {size size' : Nat} (room : image.size ≤ size)
    (larger : size ≤ size') : (holding base image size).enlarged (size' - size) = holding base image size' := by
  have zeros : size - image.size + (size' - size) = size' - image.size := by omega
  unfold enlarged holding
  rw [Array.append_assoc, Array.replicate_append_replicate, zeros]

theorem read_enlarged (m : Memory) (a : Address) : Extends (m.read a) ((m.enlarged extra).read a) := by
  by_cases h : a.toNat < m.size
  · refine .inl ?_
    unfold read
    rw [get?_enlarged h]
  · exact .inr ⟨_, read_of_le (Nat.le_of_not_lt h), _, rfl⟩

theorem byteAt_enlarged (m : Memory) (position : Nat) :
    Extends (m.byteAt position) ((m.enlarged extra).byteAt position) := by
  unfold byteAt
  by_cases h : position < addressable
  · rw [if_pos h, if_pos h]
    exact m.read_enlarged _
  · rw [if_neg h, if_neg h]
    exact .refl _

end Memory

/-! ## Instructions -/

theorem Width.readAt_enlarged (m : Memory) (position : Nat) :
    ∀ w : Width, Extends (w.readAt m position) (w.readAt (m.enlarged extra) position)
  | .byte => (m.byteAt_enlarged position).bind fun _ => .refl _
  | .word => (m.byteAt_enlarged position).bind fun _ => (m.byteAt_enlarged (position + 1)).bind fun _ => .refl _

theorem Layout.readAt_enlarged (m : Memory) : ∀ (l : Layout) (position : Nat),
    Extends (Layout.readAt m position l) (Layout.readAt (m.enlarged extra) position l)
  | [], _ => .refl _
  | w :: rest, position =>
    (w.readAt_enlarged m position).bind fun _ => (Layout.readAt_enlarged m rest _).bind fun _ => .refl _

theorem Table.decode_enlarged (t : Table) (m : Memory) (a : Address) :
    Extends (t.decode m a) (t.decode (m.enlarged extra) a) := by
  refine (m.read_enlarged a).bind fun opcode => ?_
  cases t.entry? opcode with
  | none => exact .refl _
  | some e => exact (Layout.readAt_enlarged m e.layout _).bind fun _ => .refl _

namespace Core

def enlarged (c : Core) (extra : Nat) : Core := { c with memory := c.memory.enlarged extra }

theorem evaluate_enlarged (c : Core) (i : Instruction) : Extends (c.evaluate i) ((c.enlarged extra).evaluate i) := by
  cases i with
  | load position code => exact (c.memory.read_enlarged position).bind fun _ => .refl _
  | store code position =>
    exact (Extends.refl (c.byteRegister code)).bind fun _ => (c.memory.read_enlarged position).bind fun _ => .refl _
  | loadIndirect source destination =>
    exact (Extends.refl (c.register source)).bind fun position => (c.memory.read_enlarged position).bind fun _ => .refl _
  | testAndSet position offset =>
    rw [evaluate, evaluate]
    by_cases h : offset.toNat < 8
    · rw [dif_pos h, dif_pos h]
      exact (c.memory.read_enlarged position).bind fun _ => .refl _
    · rw [dif_neg h, dif_neg h]
      exact .refl _
  -- the other instructions do not look at memory
  | _ => exact .refl _

/-- **An effect is the same in a larger memory**: what it writes had been read. -/
theorem apply_enlarged {c : Core} {i : Instruction} : ∀ {effect : Effect}, effect.Source c i →
    (c.enlarged extra).apply effect = (c.apply effect).enlarged extra
  | .none, _ | .jump _, _ | .handOver, _ | .retire, _ | .start _ _, _ => rfl
  | .setRegister _ _, _ | .calculate _ (some _), _ | .calculate _ none, _ | .setFlags _, _ => rfl
  | .store _ value, ⟨_, _, _, inRange⟩ => congrArg (fun memory => { c with memory }) (Memory.set_enlarged inRange value)
  | .testAndSet flags a value, ⟨_, b, _, read, _⟩ =>
    have inRange := (Memory.get?_eq_some_iff c.memory a).1 ⟨b, read⟩
    congrArg (fun memory => { c.updateActive fun t => { t with flags } with memory }) (Memory.set_enlarged inRange value)

theorem fetchedSlot_enlarged (c : Core) : (c.enlarged extra).fetchedSlot = c.fetchedSlot := by
  rw [fetchedSlot_eq, fetchedSlot_eq]
  rfl

theorem fetchAddress_enlarged (c : Core) : (c.enlarged extra).fetchAddress = c.fetchAddress := by
  unfold fetchAddress
  rw [fetchedSlot_enlarged]
  rfl

theorem fetched_enlarged (c : Core) : (c.enlarged extra).fetched = c.fetched.enlarged extra := by
  rw [fetched_eq, fetched_eq, fetchedSlot_enlarged]
  rfl

theorem outcome_enlarged (t : Table) (c : Core) : Extends (c.outcome t) ((c.enlarged extra).outcome t) := by
  unfold outcome
  rw [fetched_enlarged, fetchAddress_enlarged]
  exact (t.decode_enlarged c.memory c.fetchAddress).bind fun i => c.fetched.evaluate_enlarged i

/-- **A step that stays in memory is the same in a larger one.** -/
theorem step_enlarged {t : Table} {c : Core} (within : ∀ fault, (c.step t).2 = some fault → ¬ fault.OutOfMemory) :
    (c.enlarged extra).step t = ((c.step t).1.enlarged extra, (c.step t).2) := by
  by_cases active : c.slots.activeCount = 0
  · rw [step_of_idle t active, step_of_idle (c := c.enlarged extra) t active]
  · by_cases room : c.fetchAddress.toNat + 4 < 65536
    · have ready : c.Ready := ⟨active, room⟩
      have ready' : (c.enlarged extra).Ready := ⟨active, by rw [fetchAddress_enlarged]; exact room⟩
      rw [step_of_ready t ready] at within ⊢
      rw [step_of_ready t ready']
      rcases c.outcome_enlarged t with same | ⟨fault, hfault, beyond⟩
      · rw [same, fetched_enlarged]
        cases he : c.outcome t with
        | error fault => rfl
        | ok effect =>
          obtain ⟨i, -, hi⟩ := eq_ok_of_bind he
          exact congrArg (·, none) (apply_enlarged (source_of_evaluate hi))
      · rw [hfault] at within
        exact absurd beyond (within fault rfl)
    · rw [step_of_end t active room, step_of_end (c := c.enlarged extra) t active (by rw [fetchAddress_enlarged]; exact room),
        fetchAddress_enlarged, handOver_eq, handOver_eq, fetchedSlot_enlarged]
      rfl

end Core

/-! ## Service -/

namespace Device

variable {m : Memory} {d : Device}

theorem service_enlarged (done : (service m d).2.2 = none) :
    service (m.enlarged extra) d = ((service m d).1.enlarged extra, (service m d).2) := by
  have serviced := serviced m d
  generalize service m d = outcome at serviced done
  cases serviced with
  | idle silent => exact service_of_idle _ silent
  | done asks output input =>
    have inRange := (Memory.get?_eq_some_iff m _).1 ⟨_, output⟩
    rw [service_of_read asks (by rw [Memory.get?_enlarged inRange]; exact output)
      (by rw [Memory.size_enlarged]; exact Nat.lt_add_right extra input), Memory.set_enlarged input]
  | unread _ _ | unwritten _ _ _ => cases done

/-- **A round of service without a fault is the same in a larger memory.** -/
theorem serviceAll_enlarged : ∀ {m : Memory} {ds : List Device}, (serviceAll m ds).2.2 = none →
    serviceAll (m.enlarged extra) ds = ((serviceAll m ds).1.enlarged extra, (serviceAll m ds).2)
  | _, [], _ => rfl
  | m, d :: rest, h => by
    cases hs : (service m d).2.2 with
    | some fault =>
      rw [serviceAll_cons_of_fault hs] at h
      cases h
    | none =>
      have hservice : service (m.enlarged extra) d = _ := service_enlarged hs
      rw [serviceAll_cons_of_done hs] at h ⊢
      rw [serviceAll_cons_of_done (by rw [hservice]; exact hs), hservice, serviceAll_enlarged h]

end Device

namespace Machine

variable {m : Machine}

def enlarged (m : Machine) (extra : Nat) : Machine := { m with core := m.core.enlarged extra }

/-- The machine has halted because of an access beyond the end of memory. -/
def OutOfMemory (m : Machine) : Prop := m.halted = true ∧ ∃ position, m.reason = some (.memoryOutOfBounds position)

/-! ## One tick -/

theorem executed_enlarged (running : m.halted = false)
    (within : ∀ fault, m.nextStep.2 = some fault → ¬ fault.OutOfMemory) :
    (m.enlarged extra).executed = m.executed.enlarged extra := by
  have hnext : (m.enlarged extra).nextStep = (m.nextStep.1.enlarged extra, m.nextStep.2) := Core.step_enlarged within
  cases hfault : m.nextStep.2 with
  | some fault =>
    rw [executed_of_fault running hfault,
      executed_of_fault (m := m.enlarged extra) running (by rw [hnext]; exact hfault), hnext]
    rfl
  | none =>
    rw [executed_of_done hfault, executed_of_done (m := m.enlarged extra) (by rw [hnext]; exact hfault), hnext]
    rfl

/-- **A tick that stays in memory is the same in a larger one.** -/
theorem tick_enlarged (within : ¬ m.tick.OutOfMemory) : (m.enlarged extra).tick = m.tick.enlarged extra := by
  cases running : m.halted with
  | true => rw [tick_of_halted running, tick_of_halted (m := m.enlarged extra) running]
  | false =>
    have hexecuted : (m.enlarged extra).executed = m.executed.enlarged extra := by
      refine executed_enlarged running fun fault hfault beyond => within ?_
      have hhalted := (halted_executed_iff running).2 ⟨fault, hfault⟩
      obtain ⟨position, rfl⟩ := beyond
      rw [tick_of_fault running hhalted, executed_of_fault running hfault]
      exact ⟨rfl, position, rfl⟩
    cases unfaulted : m.executed.halted with
    | true =>
      rw [tick_of_fault running unfaulted,
        tick_of_fault (m := m.enlarged extra) running (by rw [hexecuted]; exact unfaulted), hexecuted]
    | false =>
      cases hround : (Device.serviceAll m.executed.core.memory m.devices).2.2 with
      | some fault =>
        obtain ⟨a, rfl⟩ := Device.outOfBounds_of_fault hround
        rw [tick_of_failed_round running unfaulted hround] at within
        exact absurd ⟨rfl, _, rfl⟩ within
      | none =>
        have round : Device.serviceAll (m.enlarged extra).executed.core.memory (m.enlarged extra).devices =
            ((Device.serviceAll m.executed.core.memory m.devices).1.enlarged extra,
              (Device.serviceAll m.executed.core.memory m.devices).2) := by
          rw [hexecuted]
          exact Device.serviceAll_enlarged hround
        rw [tick_of_round running unfaulted hround,
          tick_of_round (m := m.enlarged extra) running (by rw [hexecuted]; exact unfaulted) (by rw [round]; exact hround),
          round, hexecuted]
        rfl

/-! ## A run -/

theorem OutOfMemory.tick (h : m.OutOfMemory) : m.tick.OutOfMemory := by
  rw [tick_of_halted h.1]
  exact h

/-- **A run that stays in memory is the same in a larger one**, whatever happens to the devices. -/
theorem runIn_enlarged (h : Happenings) : ∀ {k : Nat}, ¬ (m.runIn h.surroundings k).OutOfMemory →
    (m.enlarged extra).runIn h.surroundings k = (m.runIn h.surroundings k).enlarged extra
  | 0, _ => rfl
  | k + 1, within => by
    have within_tick : ¬ (m.runIn h.surroundings k).tick.OutOfMemory := within
    have before := runIn_enlarged h fun beyond => within_tick (OutOfMemory.tick beyond)
    show { ((m.enlarged extra).runIn h.surroundings k).tick with
      devices := h (k + 1) ((m.enlarged extra).runIn h.surroundings k).tick.devices } = _
    rw [before, tick_enlarged within_tick]
    rfl

/-- The second machine is the first one with a memory that has more zeros at its end: the sizes are `size` and `size'`. -/
structure AgreesWithin (size size' : Nat) (m m' : Machine) : Prop where
  slots : m'.core.slots = m.core.slots
  active : m'.core.active = m.core.active
  halted : m'.halted = m.halted
  reason : m'.reason = m.reason
  devices : m'.devices = m.devices
  bytes : ∀ p, p < size → m'.core.memory.bytes[p]? = m.core.memory.bytes[p]?
  zeros : ∀ p, size ≤ p → p < size' → m'.core.memory.bytes[p]? = some 0

theorem agreesWithin_enlarged (m : Machine) (extra : Nat) :
    AgreesWithin m.core.memory.size (m.core.memory.size + extra) m (m.enlarged extra) where
  slots := rfl
  active := rfl
  halted := rfl
  reason := rfl
  devices := rfl
  bytes _ h := Array.getElem?_append_left h
  zeros p h h' := by
    show (m.core.memory.bytes ++ Array.replicate extra 0)[p]? = some 0
    have room : p - m.core.memory.bytes.size < extra := by
      unfold Memory.size at h h'
      omega
    rw [Array.getElem?_append_right h, Array.getElem?_replicate, if_pos room]

theorem runIn_agreesWithin (h : Happenings) {k : Nat} (within : ¬ (m.runIn h.surroundings k).OutOfMemory) (extra : Nat) :
    AgreesWithin m.core.memory.size (m.core.memory.size + extra) (m.runIn h.surroundings k)
      ((m.enlarged extra).runIn h.surroundings k) := by
  rw [runIn_enlarged h within, ← size_runIn h.surroundings m k]
  exact agreesWithin_enlarged _ extra

theorem enlarged_of_settings {c c' : Config} {read read' : FileReader} {image : Array Byte} {m m' : Machine}
    (built : c.machine read image = .ok m) (built' : c'.machine read' image = .ok m') (base : c'.base = c.base)
    (table : c'.table read' = c.table read) (larger : c.memorySize ≤ c'.memorySize) :
    m.core.memory.size = c.totalMemory ∧ ∃ extra, m' = m.enlarged extra ∧ c.totalMemory + extra = c'.totalMemory := by
  obtain ⟨t, ht, room, rfl⟩ := Config.machine_eq built
  obtain ⟨t', ht', -, rfl⟩ := Config.machine_eq built'
  obtain rfl : t = t' := Except.ok.inj (ht.symm.trans (table.symm.trans ht'))
  have hle := UInt64.le_iff_toNat_le.1 larger
  refine ⟨Memory.size_holding _ room, c'.memorySize.toNat - c.memorySize.toNat, ?_, ?_⟩
  · rw [base, ← Memory.enlarged_holding c.base.toNat room hle]
    rfl
  · unfold Config.totalMemory
    rw [base]
    omega

/-- **A larger memory does not change what a program does.**  Let two settings agree on the base offset and on the table, and
let the image be accepted with both.  Whatever devices are attached and whatever happens to them, the machine with more
memory has the same slots, the same devices and the same end, if it has come to one, after any number of ticks in which
the other one has not halted by going beyond its memory; the bytes that both have are the same and all others are 0. -/
theorem larger_memory_unseen {c c' : Config} {read read' : FileReader} {image : Array Byte} {m m' : Machine}
    (built : c.machine read image = .ok m) (built' : c'.machine read' image = .ok m') (base : c'.base = c.base)
    (table : c'.table read' = c.table read) (larger : c.memorySize ≤ c'.memorySize) (k : Nat) :
    (∀ devices, ¬ (ticks k { m with devices }).OutOfMemory →
      AgreesWithin c.totalMemory c'.totalMemory (ticks k { m with devices }) (ticks k { m' with devices })) ∧
    (∀ h : Happenings, ¬ (m.runIn h.surroundings k).OutOfMemory →
      AgreesWithin c.totalMemory c'.totalMemory (m.runIn h.surroundings k) (m'.runIn h.surroundings k)) := by
  obtain ⟨size, extra, rfl, total⟩ := enlarged_of_settings built built' base table larger
  rw [← total, ← size]
  refine ⟨fun devices within => ?_, fun h within => runIn_agreesWithin h within extra⟩
  rw [← runIn_quiet] at within ⊢
  rw [← runIn_quiet]
  exact runIn_agreesWithin (m := { m with devices }) (fun _ ds => ds) within extra

/-- A thread that reads the last byte but one of a memory of 20 bytes, stores it below its base and starts again. -/
def fetching : Array Byte := #[8, 0, 18, 0, 9, 0, 0, 2, 4, 0, 4, 0]

def fetchingIn (memorySize : Nat) : Machine := Machine.new (Memory.holding 4 fetching memorySize) 4 Table.builtIn

def fromFour (memorySize : UInt64) : Config := { Config.ofSize memorySize with base := 4 }

def tapeAtEnd : Device := .scripted ⟨"tape", 17, true, [6, 7, 8], #[]⟩

def attachedLate : Happenings := fun n ds => if n = 2 then ds ++ [tapeAtEnd] else ds

theorem fetching_unseen :
    (fromFour 16).machine (fun _ => .error .notText) fetching = .ok (fetchingIn 16) ∧
    (fromFour 40).machine (fun _ => .error .notText) fetching = .ok (fetchingIn 40) ∧
    ¬ (ticks 5 { fetchingIn 16 with devices := [tapeAtEnd] }).OutOfMemory ∧
    AgreesWithin 20 44 (ticks 5 { fetchingIn 16 with devices := [tapeAtEnd] })
      (ticks 5 { fetchingIn 40 with devices := [tapeAtEnd] }) ∧
    ¬ ((fetchingIn 16).runIn attachedLate.surroundings 5).OutOfMemory ∧
    AgreesWithin 20 44 ((fetchingIn 16).runIn attachedLate.surroundings 5)
      ((fetchingIn 40).runIn attachedLate.surroundings 5) := by
  have built : (fromFour 16).machine (fun _ => .error .notText) fetching = .ok (fetchingIn 16) := rfl
  have built' : (fromFour 40).machine (fun _ => .error .notText) fetching = .ok (fetchingIn 40) := rfl
  have within : ¬ (ticks 5 { fetchingIn 16 with devices := [tapeAtEnd] }).OutOfMemory :=
    fun beyond => absurd beyond.1 (by decide)
  have within_late : ¬ ((fetchingIn 16).runIn attachedLate.surroundings 5).OutOfMemory :=
    fun beyond => absurd beyond.1 (by decide)
  obtain ⟨attached, late⟩ := larger_memory_unseen built built' rfl rfl (by decide) 5
  exact ⟨built, built', within, attached _ within, within_late, late _ within_late⟩

end Machine
end CoopCpu
