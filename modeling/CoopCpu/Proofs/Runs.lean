import CoopCpu.Proofs.Ticks
import CoopCpu.Surroundings
/-!
# Proofs.Runs — what a round of service and a run of ticks come to

A round of service changes memory by its deliveries and by nothing else (`serviceAll_memory`), so a tick does to the core
what its instruction does and then what the deliveries do (`core_tick`).  A run in quiet surroundings is the same as that
many ticks (`runIn_quiet`).
-/
namespace CoopCpu

namespace Device

theorem exchange_memory (m : Memory) (d : Device) : (exchange m d).1 = m.deliver (exchanged m d) := by
  unfold exchange exchanged
  cases m.read d.outputLocation with
  | error fault => rfl
  | ok handed =>
    by_cases h : d.inputLocation.toNat < m.size
    · simp only [Memory.write_of_lt h, if_pos h]
      rfl
    · simp only [Memory.write_of_le (Nat.le_of_not_lt h), if_neg h]
      rfl

theorem service_memory (m : Memory) (d : Device) : (service m d).1 = m.deliver (delivered m d) := by
  unfold service delivered
  cases hp : d.poll with
  | mk wants d' =>
    cases wants with
    | true => exact exchange_memory m d'
    | false => rfl

/-- **A round of service changes memory by its deliveries**, one after another. -/
theorem serviceAll_memory : ∀ (m : Memory) (ds : List Device), (serviceAll m ds).1 = m.deliver (deliveries m ds)
  | _, [] => rfl
  | m, d :: rest => by
    have hservice := service_memory m d
    unfold serviceAll deliveries
    cases hs : service m d with
    | mk m' r =>
      rw [hs] at hservice
      obtain ⟨d', fault⟩ := r
      cases fault with
      | some f => exact hservice
      | none =>
        have hrest := serviceAll_memory m' rest
        have hm' : m' = m.deliver (delivered m d) := hservice
        show (serviceAll m' rest).1 = m.deliver (delivered m d ++ deliveries m' rest)
        rw [hrest]
        unfold Memory.deliver at hm' ⊢
        rw [List.foldl_append, ← hm']

end Device

namespace Machine

/-- **A tick does to the core what its step does and then what the deliveries do.** -/
theorem core_tick (m : Machine) (running : m.halted = false) :
    m.tick.core = { m.executed.core with memory := m.executed.core.memory.deliver m.deliveries } := by
  unfold deliveries
  cases h : m.executed.halted with
  | true =>
    rw [tick_of_fault running h, running]
    rfl
  | false =>
    rw [tick_of_done running h, serviceDevices_core, running, Device.serviceAll_memory]
    rfl

/-! ## Runs -/

theorem ticks_succ (m : Machine) : ∀ n : Nat, ticks (n + 1) m = (ticks n m).tick
  | 0 => by
    show (if m.halted then m else m.tick) = m.tick
    by_cases h : m.halted = true
    · rw [if_pos h, tick_of_halted h]
    · rw [if_neg h]
  | n + 1 => by
    show (if m.halted then m else ticks (n + 1) m.tick) = (if m.halted then m else ticks n m.tick).tick
    by_cases h : m.halted = true
    · rw [if_pos h, if_pos h, tick_of_halted h]
    · rw [if_neg h, if_neg h, ticks_succ m.tick n]

/-- **A run in quiet surroundings is a number of ticks.** -/
theorem runIn_quiet (m : Machine) : ∀ n : Nat, m.runIn Surroundings.quiet n = ticks n m
  | 0 => rfl
  | n + 1 => by
    rw [ticks_succ, ← runIn_quiet m n]
    rfl

/-- **What a tick keeps, a run keeps.** -/
theorem core_runIn_induction {P : Core → Prop} (w : Surroundings) {m : Machine} (start : P m.core)
    (tick : ∀ m' : Machine, P m'.core → P m'.tick.core) : ∀ n : Nat, P (m.runIn w n).core
  | 0 => start
  | n + 1 => tick _ (core_runIn_induction w start tick n)

end Machine
end CoopCpu
