import CoopCpu.Proofs.Overrides
import CoopCpu.Proofs.ThreadCount
/-!
# Proofs.Start — whether a new machine can start

The counter of the first thread starts at the base offset, and a slot whose counter is 0 is inactive.  A machine with a
positive base offset therefore starts there (`startsAt_new`), and one with the base offset 0 has no thread to start with
(`tick_new_zero`).  A setting may spell any 16-bit base offset, 0 as well (`base_override`).
-/
namespace CoopCpu

namespace Config

/-- Settings for a program of some bytes from a base offset on. -/
def placed (memorySize : UInt64) (base : Address) : Config := { ofSize memorySize with base }

variable {c c' : Config} {setting : String → Option String}

/-- Only a setting brings a base offset to 0 that was positive. -/
theorem base_override_ne_zero_iff (h : c.override setting = .ok c') (positive : c.base ≠ 0) :
    c'.base ≠ 0 ↔ ∀ text ∈ setting baseKey, base? text ≠ some 0 := by
  rcases base_override h with ⟨unset, hbase⟩ | ⟨text, given, spelled⟩
  · rw [unset, hbase]
    exact ⟨fun _ _ h => (by cases h), fun _ => positive⟩
  · rw [given]
    constructor
    · rintro hne text' htext hzero
      cases htext
      rw [spelled] at hzero
      exact hne (Option.some.inj hzero)
    · intro h hzero
      rw [hzero] at spelled
      exact h text rfl spelled

end Config

namespace Core

variable {memory : Memory} {base : Address}

theorem activeAt_starting (memory : Memory) (base : Address) (i : SlotIndex) :
    (Core.starting memory base).slots.activeAt i = (i == 0 && base != 0) := by
  show ((Slots.starting base).get i).isActive = _
  rw [Slots.get_starting]
  by_cases h : i = 0
  · rw [if_pos h, h]; rfl
  · rw [if_neg h, beq_eq_false_iff_ne.2 h]; rfl

theorem activeCount_starting_zero (memory : Memory) : (Core.starting memory 0).slots.activeCount = 0 := by
  rw [Slots.activeCount_eq_zero_iff]
  intro i
  show ((Slots.starting 0).get i).pc = 0
  rw [Slots.get_starting]
  by_cases h : i = 0
  · rw [if_pos h]
  · rw [if_neg h]; rfl

theorem fetchedSlot_starting (h : base ≠ 0) : (Core.starting memory base).fetchedSlot = 0 := by
  have active : (Core.starting memory base).slots.activeAt (Core.starting memory base).active = true := by
    rw [activeAt_starting]
    exact bne_iff_ne.2 h
  rw [fetchedSlot_eq, if_pos active]
  rfl

theorem fetchAddress_starting (h : base ≠ 0) : (Core.starting memory base).fetchAddress = base := by
  unfold fetchAddress
  rw [fetchedSlot_starting h]
  show ((Slots.starting base).get 0).pc = base
  rw [Slots.get_starting, if_pos rfl]

theorem ready_starting (h : base ≠ 0) (room : base.toNat + 4 ≤ 65535) : (Core.starting memory base).Ready := by
  refine ⟨?_, ?_⟩
  · show (Slots.starting base).activeCount ≠ 0
    rw [Slots.activeCount_starting h]
    exact Nat.one_ne_zero
  · rw [fetchAddress_starting h]
    exact Nat.lt_succ_of_le room

end Core

namespace Machine

variable {base : Address}

/-- The machine has one thread, in the first slot, its first tick does not end for want of threads, and if there is room
for an instruction at the base offset, it decodes the one that is there. -/
structure StartsAt (base : Address) (m : Machine) : Prop where
  first : m.core.slots.activeAt 0 = true
  others : ∀ i, i ≠ 0 → m.core.slots.activeAt i = false
  goes_on : m.tick.reason ≠ some .noActiveThreads
  decodes : base.toNat + 4 ≤ 65535 →
    m.core.fetchInstruction m.table = (m.core.fetched, m.table.decode m.core.memory base)

theorem startsAt_new (memory : Memory) (table : Table) (h : base ≠ 0) : (Machine.new memory base table).StartsAt base where
  first := by
    show (Core.starting memory base).slots.activeAt 0 = true
    rw [Core.activeAt_starting]
    exact bne_iff_ne.2 h
  others i hi := by
    show (Core.starting memory base).slots.activeAt i = false
    rw [Core.activeAt_starting, beq_eq_false_iff_ne.2 hi]
    rfl
  goes_on := by
    have some_active : (Machine.new memory base table).core.slots.activeCount ≠ 0 := by
      show (Slots.starting base).activeCount ≠ 0
      rw [Slots.activeCount_starting h]
      exact Nat.one_ne_zero
    have told := threadsTold_tick some_active ⟨fun _ => rfl, fun _ h => by cases h⟩
    exact fun hnone => told.told _ hnone
  decodes room := by
    show (Core.starting memory base).fetchInstruction table = _
    rw [Core.fetchInstruction_of_ready table (Core.ready_starting h room), Core.fetchAddress_starting h]
    rfl

/-- **With the base offset 0 no thread is active**, and the first tick is the last one. -/
theorem tick_new_zero (memory : Memory) (table : Table) : (Machine.new memory 0 table).tick =
    { Machine.new memory 0 table with halted := true, reason := some .noActiveThreads } := by
  have hstep : (Machine.new memory 0 table).nextStep = (Core.starting memory 0, some .noActiveThreads) :=
    Core.step_of_idle table (Core.activeCount_starting_zero memory)
  have hexecuted := executed_of_fault (m := Machine.new memory 0 table) rfl (congrArg Prod.snd hstep)
  rw [tick_of_fault rfl (by rw [hexecuted]), hexecuted, hstep]
  rfl

/-- **A machine starts exactly if its settings do not put it at 0.**  Whatever memory size is asked for, whichever of the
accepted base offsets a setting spells and whatever image is loaded, the machine starts at its base offset, unless that
is 0: then no slot is active and the first tick halts it for want of threads. -/
theorem startsAt_iff {size : UInt64} {setting : String → Option String} {c : Config} {read : FileReader}
    {image : Array Byte} {m : Machine} (overridden : (Config.ofSize size).override setting = .ok c)
    (built : c.machine read image = .ok m) :
    (m.StartsAt c.base ↔ ∀ text ∈ setting Config.baseKey, Config.base? text ≠ some 0) ∧
    (c.base = 0 → (∀ i, m.core.slots.activeAt i = false) ∧
      m.tick = { m with halted := true, reason := some .noActiveThreads }) := by
  have standard : (Config.ofSize size).base ≠ 0 := show (0x80 : Address) ≠ 0 by decide
  obtain ⟨table, -, -, hm⟩ := Config.machine_eq built
  constructor
  · rw [← Config.base_override_ne_zero_iff overridden standard, hm]
    refine ⟨fun starts hzero => ?_, startsAt_new _ _⟩
    have := starts.goes_on
    rw [hzero, tick_new_zero] at this
    exact this rfl
  · intro hzero
    rw [hzero] at hm
    rw [hm]
    refine ⟨fun i => ?_, tick_new_zero _ _⟩
    show (Core.starting _ 0).slots.activeAt i = false
    rw [Core.activeAt_starting, bne_self_eq_false, Bool.and_false]

/-- Only the base offset is set. -/
def baseSetting (text : String) : String → Option String := fun key => if key = Config.baseKey then some text else none

theorem placed_starts :
    (Config.ofSize 4).override (baseSetting "0x06") = .ok (Config.placed 4 6) ∧
    (Config.placed 4 6).machine (fun _ => .error .notFound) #[0] =
      .ok (Machine.new (Memory.holding 6 #[0] 4) 6 Table.builtIn) ∧
    (Machine.new (Memory.holding 6 #[0] 4) 6 Table.builtIn).StartsAt 6 := by
  have overridden : (Config.ofSize 4).override (baseSetting "0x06") = .ok (Config.placed 4 6) := rfl
  have built : (Config.placed 4 6).machine (fun _ => .error .notFound) #[0] =
      .ok (Machine.new (Memory.holding 6 #[0] 4) 6 Table.builtIn) := rfl
  refine ⟨overridden, built, (startsAt_iff overridden built).1.2 fun text htext => ?_⟩
  have spelled : Config.base? "0x06" = some 6 := by decide
  cases htext
  rw [spelled]
  decide

/-- **The base offset 0 is accepted, and then the first tick halts the machine.** -/
theorem placed_at_zero_halts :
    (Config.ofSize 4).override (baseSetting "0") = .ok (Config.placed 4 0) ∧
    (Config.placed 4 0).machine (fun _ => .error .notFound) #[0] =
      .ok (Machine.new (Memory.holding 0 #[0] 4) 0 Table.builtIn) ∧
    (Machine.new (Memory.holding 0 #[0] 4) 0 Table.builtIn).core.slots.activeAt 0 = false ∧
    (Machine.new (Memory.holding 0 #[0] 4) 0 Table.builtIn).tick.reason = some .noActiveThreads :=
  ⟨rfl, rfl, rfl, rfl⟩

end Machine
end CoopCpu
