import CoopCpu.Proofs.FaultAtomicity
import CoopCpu.Proofs.Service
import CoopCpu.Proofs.ThreadCount
/-!
# Proofs.MemoryFrame — which bytes of memory can change

An instruction changes the byte of its store, or one bit of the byte of its test-and-set (`instructionWrites`), and a round
of service changes the bytes at the input locations of the devices that it serves.  Nothing else is written, so whatever
byte a run has changed was the target of one of these (`memory_framed`).
-/
namespace CoopCpu

namespace Device

theorem inputLocation_ne_statusLocation (d : Device) : d.inputLocation ≠ d.statusLocation := by
  intro h
  have := congrArg UInt16.toNat h
  unfold inputLocation statusLocation at this
  rw [UInt16.toNat_add, UInt16.toNat_one] at this
  have := d.location.toNat_lt
  omega

theorem inputLocation_ne_outputLocation (d : Device) : d.inputLocation ≠ d.outputLocation := by
  intro h
  have := congrArg UInt16.toNat h
  unfold inputLocation outputLocation at this
  rw [UInt16.toNat_add, UInt16.toNat_add, UInt16.toNat_one, show (2 : UInt16).toNat = 2 from rfl] at this
  have := d.location.toNat_lt
  omega

end Device

namespace Core

theorem apply_base (c : Core) : ∀ effect : Effect, (c.apply effect).base = c.base
  | .none | .jump _ | .handOver | .retire | .start _ _ | .setRegister _ _ | .setFlags _ => rfl
  | .calculate _ (some _) | .calculate _ none => rfl
  | .store _ _ | .testAndSet _ _ _ => rfl

theorem base_of_stepped {t : Table} {c c' : Core} {fault? : Option Fault} (h : Stepped t c c' fault?) :
    c'.base = c.base := by
  cases h with
  | idle _ => rfl
  | atEnd _ _ => rw [handOver_eq]
  | undecoded _ _ | refused _ _ _ => exact c.base_fetched
  | done _ _ _ => rw [apply_base, base_fetched]

end Core

namespace Machine

/-- What the instruction of the next tick does to memory. -/
inductive InstructionWrites (m : Machine) : Prop
  | nothing (kept : m.executed.core.memory = m.core.memory)
  | store {code : Byte} {a : Address} (completed : m.completed? = some (.store code a))
    (others : ∀ p, p ≠ a.toNat → m.executed.core.memory.bytes[p]? = m.core.memory.bytes[p]?)
  | testAndSet {a : Address} {o : BitIndex} {old new : Byte}
    (completed : m.completed? = some (.testAndSet a (UInt8.ofNat o.val)))
    (before : m.core.memory.get? a = some old) (after : m.executed.core.memory.get? a = some new)
    (set : Byte.bit new o = true) (bits : ∀ i, i ≠ o → Byte.bit new i = Byte.bit old i)
    (others : ∀ p, p ≠ a.toNat → m.executed.core.memory.bytes[p]? = m.core.memory.bytes[p]?)

/-- The next tick writes the byte at a position, by its instruction or by serving a device. -/
inductive WritesTo (m : Machine) (p : Nat) : Prop
  | store {code : Byte} {a : Address} (completed : m.completed? = some (.store code a)) (place : a.toNat = p)
  | testAndSet {a : Address} {offset : Byte} (completed : m.completed? = some (.testAndSet a offset))
    (place : a.toNat = p)
  | service {k : Nat} {d : Device} (serves : m.Serves k d) (place : d.inputLocation.toNat = p)

/-! ## One tick -/

theorem instructionWrites {m : Machine} (running : m.halted = false) : m.InstructionWrites := by
  cases hfault : m.nextStep.2 with
  | some fault =>
    have hstepped := m.stepped
    rw [hfault] at hstepped
    exact .nothing (Core.spares_of_stepped hstepped).memory
  | none =>
    obtain ⟨i, effect, completed, -, he, hcore⟩ := completed_of_done running hfault
    have source := Core.source_of_evaluate he
    have hmemory : m.executed.core.memory = m.core.memory.deliver effect.written := by
      rw [hcore, Core.apply_memory, Core.fetched_memory]
    have others {a : Address} {value : Byte} (h : effect.written = [(a, value)]) (p : Nat) (hp : p ≠ a.toNat) :
        m.executed.core.memory.bytes[p]? = m.core.memory.bytes[p]? := by
      rw [hmemory, h]
      exact Memory.getElem?_set _ a value hp
    cases effect with
    | store a value =>
      obtain ⟨code, rfl, -, -⟩ := source
      exact .store completed (others rfl)
    | testAndSet flags a value =>
      obtain ⟨o, old, rfl, hold, -, rfl⟩ := source
      rw [Core.fetched_memory] at hold
      have inRange := (Memory.get?_eq_some_iff m.core.memory a).1 ⟨old, hold⟩
      have after : m.executed.core.memory.get? a = some (Byte.withBit old o true) := by
        rw [hmemory]
        exact (Memory.get?_set m.core.memory a a _).trans (if_pos ⟨rfl, inRange⟩)
      refine .testAndSet completed hold after ?_ (fun i hi => ?_) (others rfl)
      · rw [Byte.bit_withBit, if_pos rfl]
      · rw [Byte.bit_withBit, if_neg hi]
    | _ => exact .nothing hmemory

theorem base_tick (m : Machine) : m.tick.core.base = m.core.base := by
  cases h : m.halted with
  | true => rw [tick_of_halted h]
  | false =>
    have hbase : m.tick.core.base = m.executed.core.base := by rw [core_tick m h]
    exact hbase.trans (Core.base_of_stepped m.stepped)

/-- **A round of service changes bytes only where it serves a device.** -/
theorem serves_of_bytes_ne {m : Machine} (running : m.halted = false) {p : Nat}
    (h : m.tick.core.memory.bytes[p]? ≠ m.executed.core.memory.bytes[p]?) :
    ∃ k d, m.Serves k d ∧ d.inputLocation.toNat = p := by
  cases unfaulted : m.executed.halted with
  | true => exact absurd (by rw [tick_of_fault running unfaulted]) h
  | false =>
    refine Classical.byContradiction fun unserved => h ?_
    refine (bytes_tick (k := 0) running unfaulted rfl fun j d _ hserves hp => ?_)
    exact unserved ⟨j, d, hserves, hp⟩

theorem bytes_tick_of_not_writesTo {m : Machine} {p : Nat} (h : ¬ m.WritesTo p) :
    m.tick.core.memory.bytes[p]? = m.core.memory.bytes[p]? := by
  cases running : m.halted with
  | true => rw [tick_of_halted running]
  | false =>
    have instruction : m.executed.core.memory.bytes[p]? = m.core.memory.bytes[p]? := by
      cases instructionWrites running with
      | nothing kept => rw [kept]
      | store completed others => exact others p fun hp => h (.store completed hp.symm)
      | testAndSet completed _ _ _ _ others => exact others p fun hp => h (.testAndSet completed hp.symm)
    refine Classical.byContradiction fun changed => ?_
    obtain ⟨k, d, serves, place⟩ := serves_of_bytes_ne running (p := p) (by rw [instruction]; exact changed)
    exact h (.service serves place)

/-- **A device's status and output bytes are left alone**, unless another device is served there. -/
theorem window_unwritten {m : Machine} {j : Nat} {d : Device} (attached : m.devices[j]? = some d) {a : Address}
    (window : a = d.statusLocation ∨ a = d.outputLocation)
    (unserved : ∀ k d', k ≠ j → m.Serves k d' → d'.inputLocation ≠ a) : ∀ delivery ∈ m.deliveries, delivery.1 ≠ a := by
  intro delivery hdelivery hplace
  obtain ⟨k, d', serves, hinput⟩ := serves_of_mem_deliveries hdelivery
  by_cases hk : k = j
  · subst hk
    obtain rfl : d' = d := Option.some.inj (serves.reaches.device.symm.trans attached)
    rcases window with rfl | rfl
    · exact d'.inputLocation_ne_statusLocation (hinput.trans hplace)
    · exact d'.inputLocation_ne_outputLocation (hinput.trans hplace)
  · exact unserved k d' hk serves (hinput.trans hplace)

/-! ## A run -/

theorem bytes_runIn {w : Surroundings} {m : Machine} {p : Nat} : ∀ {n : Nat},
    (∀ t, t < n → ¬ (m.runIn w t).WritesTo p) → (m.runIn w n).core.memory.bytes[p]? = m.core.memory.bytes[p]?
  | 0, _ => rfl
  | n + 1, h => by
    have htick := bytes_tick_of_not_writesTo (h n (Nat.lt_succ_self n))
    exact htick.trans (bytes_runIn fun t ht => h t (Nat.lt_succ_of_lt ht))

theorem base_runIn (w : Surroundings) (m : Machine) (n : Nat) : (m.runIn w n).core.base = m.core.base :=
  core_runIn_induction (P := fun c => c.base = m.core.base) w rfl (fun m' h => (base_tick m').trans h) n

/-- **Memory changes only where it is written.**  In any run the size of memory and the base offset stay, and a byte that is
not as it was has been the target of a store, of a test-and-set or of the service of a device.  In one tick the instruction
changes one byte at the most, a test-and-set one bit of it at the most, which it sets; the service changes only the input
locations of the devices that it serves, and what it writes never lands in the status or output byte of a device unless
that is where another device is served. -/
theorem memory_framed (w : Surroundings) (m : Machine) :
    (∀ n, (m.runIn w n).core.memory.size = m.core.memory.size ∧ (m.runIn w n).core.base = m.core.base ∧
      ∀ p, (m.runIn w n).core.memory.bytes[p]? ≠ m.core.memory.bytes[p]? →
        ∃ t, t < n ∧ (m.runIn w t).WritesTo p) ∧
    (m.halted = false → m.InstructionWrites ∧
      (∀ p, m.tick.core.memory.bytes[p]? ≠ m.executed.core.memory.bytes[p]? →
        ∃ k d, m.Serves k d ∧ d.inputLocation.toNat = p) ∧
      ∀ j d, m.devices[j]? = some d → ∀ a, a = d.statusLocation ∨ a = d.outputLocation →
        (∀ k d', k ≠ j → m.Serves k d' → d'.inputLocation ≠ a) →
        ∀ delivery ∈ m.deliveries, delivery.1 ≠ a) := by
  refine ⟨fun n => ⟨size_runIn w m n, base_runIn w m n, fun p hp => ?_⟩, fun running =>
    ⟨instructionWrites running, fun p => serves_of_bytes_ne running, fun j d attached a => window_unwritten attached⟩⟩
  refine Classical.byContradiction fun unwritten => hp ?_
  exact bytes_runIn fun t ht hwrites => unwritten ⟨t, ht, hwrites⟩

/-- A thread that locks a bit of byte 3 and then stores into byte 2, beside a tape whose window begins at 0 and another one
whose window is the end of memory. -/
def lockingBesideTapes : Machine :=
  { Machine.new ⟨#[0, 0, 0, 0, 25, 3, 0, 0, 9, 0x82, 0, 2, 0, 0, 0]⟩ 4 Table.builtIn with
    devices := [.scripted ⟨"first", 0, true, [7, 8], #[]⟩, .scripted ⟨"last", 12, true, [9], #[]⟩] }

theorem lockingBesideTapes_framed :
    (lockingBesideTapes.runIn Surroundings.quiet 2).core.memory.bytes[2]? ≠ lockingBesideTapes.core.memory.bytes[2]? ∧
    (∃ t, t < 2 ∧ (lockingBesideTapes.runIn Surroundings.quiet t).WritesTo 2) ∧
    lockingBesideTapes.halted = false ∧ lockingBesideTapes.InstructionWrites ∧
    lockingBesideTapes.tick.core.memory.bytes[13]? ≠ lockingBesideTapes.executed.core.memory.bytes[13]? ∧
    (∃ k d, lockingBesideTapes.Serves k d ∧ d.inputLocation.toNat = 13) ∧
    lockingBesideTapes.deliveries = [(1, 7), (13, 9)] ∧ ∀ delivery ∈ lockingBesideTapes.deliveries, delivery.1 ≠ 2 := by
  have changed : (lockingBesideTapes.runIn Surroundings.quiet 2).core.memory.bytes[2]? ≠
    lockingBesideTapes.core.memory.bytes[2]? := by decide
  have delivered : lockingBesideTapes.tick.core.memory.bytes[13]? ≠
    lockingBesideTapes.executed.core.memory.bytes[13]? := by decide
  obtain ⟨run, tick⟩ := memory_framed Surroundings.quiet lockingBesideTapes
  obtain ⟨instruction, service, window⟩ := tick rfl
  refine ⟨changed, (run 2).2.2 2 changed, rfl, instruction, delivered, service 13 delivered, by decide, ?_⟩
  refine window 0 (.scripted ⟨"first", 0, true, [7, 8], #[]⟩) rfl 2 (.inr rfl) fun k d hk serves => ?_
  match k, hk, serves.reaches.device with
  | 0, hk, _ => exact absurd rfl hk
  | 1, _, attached =>
    obtain rfl := Option.some.inj attached
    decide

end Machine
end CoopCpu
