import CoopCpu.Proofs.Runs
import CoopCpu.Proofs.Setup
/-!
# Proofs.CounterFloor — no thread runs below the base offset

A machine that was built with a base offset has every program counter at 0 or not below that offset, and so it stays
(`Core.AboveBase`): the fetch adds 4 without going round the end, a jump and a new thread are checked against the base,
and a thread that ends leaves 0.  An instruction is therefore only ever fetched where a program may be
(`fetch_aboveBase`).
-/
namespace CoopCpu
namespace Core

/-- The base offset is `base`, and every slot is inactive or not below it. -/
structure AboveBase (base : Address) (c : Core) : Prop where
  base_eq : c.base = base
  counters : ∀ i : SlotIndex, (c.slots.get i).pc = 0 ∨ base ≤ (c.slots.get i).pc

namespace AboveBase

variable {base : Address} {c : Core}

theorem update (h : c.AboveBase base) (i : SlotIndex) (change : ThreadSlot → ThreadSlot)
    (hpc : (change (c.slots.get i)).pc = 0 ∨ base ≤ (change (c.slots.get i)).pc) :
    { c with slots := c.slots.update i change }.AboveBase base where
  base_eq := h.base_eq
  counters j := by
    rw [Slots.get_update]
    by_cases hj : j = i
    · rw [if_pos hj]; exact hpc
    · rw [if_neg hj]; exact h.counters j

theorem updateActive (h : c.AboveBase base) {change : ThreadSlot → ThreadSlot} (hpc : ∀ t, (change t).pc = t.pc) :
    (c.updateActive change).AboveBase base :=
  h.update c.active change (by rw [hpc]; exact h.counters c.active)

theorem active (h : c.AboveBase base) (i : SlotIndex) : { c with active := i }.AboveBase base := ⟨h.base_eq, h.counters⟩

theorem memory (h : c.AboveBase base) (memory : Memory) : { c with memory }.AboveBase base := ⟨h.base_eq, h.counters⟩

/-- **An instruction is fetched at or above the base**, since its slot is active. -/
theorem base_le_fetchAddress (h : c.AboveBase base) (ready : c.Ready) : base ≤ c.fetchAddress :=
  (h.counters c.fetchedSlot).resolve_left (fetchAddress_ne_zero ready.1)

theorem fetched (h : c.AboveBase base) (ready : c.Ready) : c.fetched.AboveBase base := by
  have hle := UInt16.le_iff_toNat_le.1 (h.base_le_fetchAddress ready)
  have hpc : (c.fetchAddress + 4).toNat = c.fetchAddress.toNat + 4 := by
    rw [UInt16.toNat_add]
    exact Nat.mod_eq_of_lt ready.2
  have hnext : base ≤ c.fetchAddress + 4 := by
    rw [UInt16.le_iff_toNat_le, hpc]
    omega
  rw [fetched_eq]
  exact (h.update c.fetchedSlot (fun t => { t with pc := t.pc + 4 }) (.inr hnext)).active c.fetchedSlot

/-- **An effect keeps the counters above the base**: where it sets one, the target had been checked. -/
theorem apply (h : c.AboveBase base) {i : Instruction} : ∀ {effect : Effect}, effect.Source c i →
    (c.apply effect).AboveBase base
  | .none, _ => h
  | .jump target, hs => h.update c.active (fun t => { t with pc := target }) (.inr (h.base_eq ▸ hs.2))
  | .handOver, _ => h.active _
  | .retire, _ => (h.update c.active (fun t => { t with pc := 0 }) (.inl rfl)).active _
  | .start slot entry, hs => (h.update slot (fun t => { t with pc := entry }) (.inr (h.base_eq ▸ hs.2.1))).active slot
  | .setRegister _ _, _ => h.updateActive fun _ => rfl
  | .calculate _ (some _), _ => h.updateActive fun _ => rfl
  | .calculate _ none, _ => h.updateActive fun _ => rfl
  | .setFlags _, _ => h.updateActive fun _ => rfl
  | .store _ _, _ => h.memory _
  | .testAndSet flags _ _, _ =>
    have hflags : (c.updateActive fun t => { t with flags }).AboveBase base := h.updateActive fun _ => rfl
    hflags.memory _

/-- **A step keeps the counters above the base**, with or without a fault. -/
theorem stepped (h : c.AboveBase base) {t : Table} {c' : Core} {fault? : Option Fault} (hs : Stepped t c c' fault?) :
    c'.AboveBase base := by
  cases hs with
  | idle _ => exact h
  | atEnd _ _ => rw [handOver_eq]; exact h.active _
  | undecoded ready _ => exact h.fetched ready
  | refused ready _ _ => exact h.fetched ready
  | done ready _ he => exact (h.fetched ready).apply (source_of_evaluate he)

end AboveBase

theorem aboveBase_starting (memory : Memory) (base : Address) : (Core.starting memory base).AboveBase base where
  base_eq := rfl
  counters i := by
    show ((Slots.starting base).get i).pc = 0 ∨ base ≤ ((Slots.starting base).get i).pc
    rw [Slots.get_starting]
    by_cases h : i = 0
    · rw [if_pos h]; exact .inr (UInt16.le_refl base)
    · rw [if_neg h]; exact .inl rfl

end Core

namespace Machine

/-- A machine as it comes out of its construction, with this base offset. -/
inductive BuiltWith (base : Address) : Machine → Prop
  | new (memory : Memory) (table : Table) : BuiltWith base (Machine.new memory base table)
  | config {c : Config} {read : FileReader} {image : Array Byte} {m : Machine} (built : c.machine read image = .ok m)
    (offset : c.base = base) : BuiltWith base m

theorem BuiltWith.eq_new {base : Address} {m : Machine} (h : BuiltWith base m) :
    ∃ memory table, m = Machine.new memory base table := by
  cases h with
  | new memory table => exact ⟨memory, table, rfl⟩
  | config built offset =>
    subst offset
    obtain ⟨table, -, -, rfl⟩ := Config.machine_eq built
    exact ⟨_, table, rfl⟩

theorem BuiltWith.aboveBase {base : Address} {m : Machine} (h : BuiltWith base m) : m.core.AboveBase base := by
  obtain ⟨memory, table, rfl⟩ := h.eq_new
  exact Core.aboveBase_starting memory base

theorem aboveBase_tick {base : Address} (m : Machine) (h : m.core.AboveBase base) : m.tick.core.AboveBase base := by
  cases halted : m.halted with
  | true => rw [tick_of_halted halted]; exact h
  | false =>
    rw [core_tick m halted]
    exact (h.stepped m.stepped).memory _

/-- **No thread ever runs below the base offset.**  However long a machine runs and whatever its devices do, every counter
is 0 or at least the base, and an instruction is fetched for a slot that is active, from an address that is at least the
base and so far from the end that the counter does not go round. -/
theorem runIn_aboveBase {base : Address} {m : Machine} (built : BuiltWith base m) (w : Surroundings) (n : Nat) :
    (∀ i : SlotIndex, ((m.runIn w n).core.slots.get i).pc = 0 ∨ base ≤ ((m.runIn w n).core.slots.get i).pc) ∧
    ∀ a, (m.runIn w n).core.fetch.2 = .ok a →
      base ≤ a ∧ 1 ≤ a.toNat ∧ a.toNat + 4 ≤ 65535 ∧
      ((m.runIn w n).core.slots.get (m.runIn w n).core.fetchedSlot).pc = a ∧
      ((m.runIn w n).core.fetch.1.slots.get (m.runIn w n).core.fetchedSlot).pc.toNat = a.toNat + 4 := by
  have h := core_runIn_induction w built.aboveBase aboveBase_tick n
  refine ⟨h.counters, fun a ha => ?_⟩
  obtain ⟨ready, rfl⟩ := Core.ready_of_fetch ha
  have hzero := Core.fetchAddress_ne_zero ready.1
  have hnat : (m.runIn w n).core.fetchAddress.toNat ≠ 0 := fun e => hzero (UInt16.toNat_inj.1 e)
  refine ⟨h.base_le_fetchAddress ready, by omega, Nat.le_of_lt_succ ready.2, rfl, ?_⟩
  rw [Core.fetch_of_ready ready]
  exact Core.fetched_pc ready

/-- A machine whose first thread starts another one and then ends. -/
def passingOn : Machine := Machine.new ⟨#[0, 0, 0, 0, 3, 0, 4, 0, 2, 0, 0, 0]⟩ 4 Table.builtIn

theorem passingOn_aboveBase : BuiltWith 4 passingOn ∧ (passingOn.runIn Surroundings.quiet 1).core.fetch.2 = .ok 4 ∧
    (4 : Address) ≤ 4 ∧ 1 ≤ (4 : Address).toNat ∧ (4 : Address).toNat + 4 ≤ 65535 :=
  have built : BuiltWith 4 passingOn := .new _ _
  have fetched : (passingOn.runIn Surroundings.quiet 1).core.fetch.2 = .ok 4 := rfl
  have floor := (runIn_aboveBase built Surroundings.quiet 1).2 4 fetched
  ⟨built, fetched, floor.1, floor.2.1, floor.2.2.1⟩

end Machine
end CoopCpu
