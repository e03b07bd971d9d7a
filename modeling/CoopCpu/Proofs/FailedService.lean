import CoopCpu.Proofs.Delivery
/-!
# Proofs.FailedService — what a service that fails has taken

A service reads the output byte, has the exchange with the device, and then writes the input byte.  A fault of the reading
leaves the device as it was.  A fault of the writing comes after the exchange, and it can come at one place only: the
window has to go round the end of the address space so that its output byte lies in memory and its input byte does not
(`Device.straddles_iff`).  Everywhere else a service that fails takes nothing (`failed_service_keeps`); there a byte is lost
(`roundTheEnd_loses`).
-/
namespace CoopCpu

namespace Device

/-- The device sits where the output byte of its window is the first byte of the address space and the input byte the last
one, and the memory has the one and not the other. -/
def Straddles (d : Device) (size : Nat) : Prop := d.location = 0xFFFE ∧ 1 ≤ size ∧ size ≤ 0xFFFF

instance (d : Device) (size : Nat) : Decidable (d.Straddles size) := inferInstanceAs (Decidable (_ ∧ _ ∧ _))

/-- **Nowhere else does the output byte lie in memory and the input byte beyond it.** -/
theorem straddles_iff (d : Device) (size : Nat) :
    d.Straddles size ↔ d.outputLocation.toNat < size ∧ size ≤ d.inputLocation.toNat := by
  have hlocation : d.location = 0xFFFE ↔ d.location.toNat = 0xFFFE := UInt16.toNat_inj.symm
  have hinput : d.inputLocation.toNat = (d.location.toNat + 1) % 65536 := UInt16.toNat_add _ _
  have houtput : d.outputLocation.toNat = (d.location.toNat + 2) % 65536 := UInt16.toNat_add _ _
  have := d.location.toNat_lt
  unfold Straddles
  rw [hlocation, hinput, houtput]
  omega

end Device

namespace Machine

variable {m : Machine} {k : Nat} {s : Scripted} {a : Address} {byte : Byte}

/-- The next tick halts the machine when it serves scripted device number `k`: the turn of the device comes, it asks, and
the byte at this address of its window is beyond the end of memory. -/
structure FailsAt (m : Machine) (k : Nat) (s : Scripted) (a : Address) : Prop where
  reaches : m.Reaches k (.scripted s)
  wants : s.wantsService = true
  place : a = (Device.scripted s).outputLocation ∨ a = (Device.scripted s).inputLocation
  beyond : m.core.memory.size ≤ a.toNat
  halted : m.tick.halted = true
  reason : m.tick.reason = some (Memory.outOfBounds a)

/-- The next tick takes a byte from scripted device number `k` and puts it nowhere. -/
structure Loses (m : Machine) (k : Nat) (s : Scripted) (byte : Byte) : Prop where
  first : s.queue = byte :: s.queue.tail
  taken : m.taken k = some byte
  /-- The device has recorded the byte at address 0, as the instruction and the devices before it have left it. -/
  exchanged : ∃ handed, (m.memoryAt k).get? 0 = some handed ∧
    m.tick.devices[k]? = some (.scripted { s with queue := s.queue.tail, record := s.record.push handed })
  unstored : m.tick.core.memory = m.memoryAt k

/-! ## The tick that halts -/

theorem tick_of_reached_fault {d : Device} {fault : Fault} (reaches : m.Reaches k d)
    (h : (Device.service (m.memoryAt k) d).2.2 = some fault) :
    m.tick.halted = true ∧ m.tick.reason = some fault ∧
      m.tick.core.memory = (Device.service (m.memoryAt k) d).1 := by
  obtain ⟨hmemory, hfault⟩ := Device.serviceAll_of_fault reaches.reached h
  rw [tick_of_failed_round reaches.running reaches.unfaulted hfault]
  exact ⟨rfl, rfl, hmemory⟩

theorem reaches_of_halted (running : m.halted = false) (unfaulted : m.executed.halted = false)
    (halts : m.tick.halted = true) :
    ∃ k d fault, m.Reaches k d ∧ (Device.service (m.memoryAt k) d).2.2 = some fault := by
  cases hround : (Device.serviceAll m.executed.core.memory m.devices).2.2 with
  | some fault =>
    obtain ⟨k, d, hreached, hfault⟩ := Device.reached_of_fault hround
    exact ⟨k, d, fault, ⟨running, unfaulted, hreached⟩, hfault⟩
  | none =>
    rw [tick_of_round running unfaulted hround, unfaulted] at halts
    cases halts

/-- **A round that halts the machine fails at one of its devices.** -/
theorem failsAt_of_halted (scripted : ∀ d ∈ m.devices, ∃ s, d = .scripted s) (running : m.halted = false)
    (unfaulted : m.executed.halted = false) (halts : m.tick.halted = true) : ∃ k s a, m.FailsAt k s a := by
  obtain ⟨k, d, fault, reaches, hfault⟩ := reaches_of_halted running unfaulted halts
  obtain ⟨s, rfl⟩ := scripted d (List.mem_of_getElem? reaches.device)
  obtain ⟨-, hreason, -⟩ := tick_of_reached_fault reaches hfault
  have serviced := Device.serviced (m.memoryAt k) (.scripted s)
  have hsize := m.size_memoryAt k
  generalize Device.service (m.memoryAt k) (.scripted s) = outcome at serviced hfault
  cases serviced with
  | idle _ | done _ _ _ => cases hfault
  | unread asks output =>
    exact ⟨k, s, _, reaches, asks, .inl rfl, hsize ▸ output, halts, hreason.trans hfault.symm⟩
  | unwritten asks output input =>
    exact ⟨k, s, _, reaches, asks, .inr rfl, hsize ▸ input, halts, hreason.trans hfault.symm⟩

theorem FailsAt.kept (h : m.FailsAt k s a) (apart : ¬ (Device.scripted s).Straddles m.core.memory.size) :
    m.tick.devices[k]? = some (.scripted s) ∧ m.taken k = none := by
  have output : (m.memoryAt k).size ≤ (Device.scripted s).outputLocation.toNat := by
    -- an input byte beyond the end, with the output byte before it, is what straddling means
    rw [Device.straddles_iff] at apart
    rw [size_memoryAt]
    have := h.beyond
    rcases h.place with rfl | rfl <;> omega
  have asks : (Device.scripted s).poll.1 = true := h.wants
  constructor
  · rw [(getElem?_devices_tick h.reaches.device).1 h.reaches, Device.service_of_asking _ asks]
    exact congrArg (some ·.2.1) (Device.exchange_of_unread output)
  · rw [taken_of_reaches h.reaches, Device.taken_of_asking _ asks, Memory.read_of_le output]
    rfl

theorem FailsAt.loses (h : m.FailsAt k s a) (straddles : (Device.scripted s).Straddles m.core.memory.size) :
    ∃ byte, m.Loses k s byte := by
  obtain ⟨output, input⟩ := (Device.straddles_iff _ _).1 straddles
  rw [← m.size_memoryAt k] at output input
  obtain ⟨handed, hhanded⟩ := (Memory.get?_eq_some_iff _ _).2 output
  have asks : (Device.scripted s).poll.1 = true := h.wants
  have hservice : Device.service (m.memoryAt k) (.scripted s) = (m.memoryAt k, .scripted (s.serve handed).2, some _) :=
    (Device.service_of_asking _ asks).trans (Device.exchange_of_unwritten (d := .scripted s) hhanded input)
  have hzero : (Device.scripted s).outputLocation = 0 := by
    show s.location + 2 = 0
    rw [show s.location = 0xFFFE from straddles.1]
    rfl
  cases hqueue : s.queue with
  | nil => exact absurd hqueue (s.wantsService_iff.1 h.wants).2
  | cons byte rest =>
    refine ⟨byte, by rw [hqueue]; rfl, ?_, ⟨handed, hzero ▸ hhanded, ?_⟩, ?_⟩
    · rw [taken_of_reaches h.reaches, Device.taken_of_read asks hhanded]
      show some (s.queue.headD 0) = some byte
      rw [hqueue]
      rfl
    · rw [(getElem?_devices_tick h.reaches.device).1 h.reaches, hservice]
      rfl
    · rw [(tick_of_reached_fault h.reaches (congrArg (·.2.2) hservice)).2.2, hservice]

/-- **A byte that is taken is delivered or lost.** -/
theorem delivers_or_loses (attached : m.devices[k]? = some (.scripted s)) (htaken : m.taken k = some byte) :
    m.Delivers k s byte ∨
    (Device.scripted s).Straddles m.core.memory.size ∧ m.FailsAt k s (Device.scripted s).inputLocation ∧
      m.Loses k s byte := by
  have reaches : m.Reaches k (.scripted s) := Classical.byContradiction fun passed => by
    rw [taken_of_not_reaches attached passed] at htaken
    cases htaken
  have serviced := Device.serviced (m.memoryAt k) (.scripted s)
  have hsize := m.size_memoryAt k
  have htaken' := (taken_of_reaches reaches).symm.trans htaken
  generalize hservice : Device.service (m.memoryAt k) (.scripted s) = outcome at serviced
  cases serviced with
  | idle silent =>
    rw [Device.taken_of_idle _ silent] at htaken'
    cases htaken'
  | unread asks output =>
    rw [Device.taken_of_asking _ asks, Memory.read_of_le output] at htaken'
    cases htaken'
  | done asks output input =>
    have tape : m.HasTape k s := ⟨attached, hsize ▸ (Memory.get?_eq_some_iff _ _).1 ⟨_, output⟩, hsize ▸ input⟩
    obtain ⟨byte', htaken'', delivers⟩ := tape.delivers reaches asks
    obtain rfl : byte' = byte := Option.some.inj (htaken''.symm.trans htaken)
    exact .inl delivers
  | unwritten asks output input =>
    have straddles : (Device.scripted s).Straddles m.core.memory.size :=
      (Device.straddles_iff _ _).2 ⟨hsize ▸ (Memory.get?_eq_some_iff _ _).1 ⟨_, output⟩, hsize ▸ input⟩
    obtain ⟨halted, reason, -⟩ := tick_of_reached_fault reaches (congrArg (·.2.2) hservice)
    have fails : m.FailsAt k s (Device.scripted s).inputLocation :=
      ⟨reaches, asks, .inr rfl, hsize ▸ input, halted, reason⟩
    obtain ⟨byte', loses⟩ := fails.loses straddles
    obtain rfl : byte' = byte := Option.some.inj (loses.taken.symm.trans htaken)
    exact .inr ⟨straddles, fails, loses⟩

/-- **A service that fails takes nothing, except where the window goes round the end.**  When a round of service halts a
machine with scripted devices, it is at a device that asks and has its output or its input byte beyond the end of memory,
and that address is the reason.  The device still has the queue and the record that it had before the tick, unless it sits
at 0xFFFE and memory has some bytes but not all: then it has recorded the byte at address 0, and the first byte of its
queue is gone.  Any other byte that a tick takes from a scripted device is delivered to its input location. -/
theorem failed_service_keeps (m : Machine) :
    ((∀ d ∈ m.devices, ∃ s, d = .scripted s) → m.halted = false → m.executed.halted = false → m.tick.halted = true →
      ∃ k s a, m.FailsAt k s a) ∧
    (∀ k s a, m.FailsAt k s a → m.devices[k]? = some (.scripted s) ∧
      (¬ (Device.scripted s).Straddles m.core.memory.size →
        m.tick.devices[k]? = some (.scripted s) ∧ m.taken k = none) ∧
      ((Device.scripted s).Straddles m.core.memory.size → ∃ byte, m.Loses k s byte)) ∧
    (∀ k s byte, m.devices[k]? = some (.scripted s) → m.taken k = some byte →
      m.Delivers k s byte ∨
      (Device.scripted s).Straddles m.core.memory.size ∧ m.FailsAt k s (Device.scripted s).inputLocation ∧
        m.Loses k s byte) :=
  ⟨failsAt_of_halted, fun _ _ _ h => ⟨h.reaches.device, h.kept, h.loses⟩, fun _ _ _ => delivers_or_loses⟩

/-- A thread that yields, beside two tapes: the first lies in memory and the second at its end, half of it beyond. -/
def overreaching : Machine :=
  { Machine.new ⟨#[3, 0, 0, 0, 1, 0, 0, 0]⟩ 4 Table.builtIn with
    devices := [.scripted ⟨"near", 0, true, [7, 8], #[]⟩, .scripted ⟨"far", 6, true, [9], #[]⟩] }

theorem overreaching_keeps :
    (∃ k s a, overreaching.FailsAt k s a) ∧ overreaching.FailsAt 1 ⟨"far", 6, true, [9], #[]⟩ 8 ∧
    overreaching.tick.devices[1]? = some (.scripted ⟨"far", 6, true, [9], #[]⟩) ∧ overreaching.taken 1 = none ∧
    overreaching.taken 0 = some 7 ∧ overreaching.Delivers 0 ⟨"near", 0, true, [7, 8], #[]⟩ 7 := by
  have fails : overreaching.FailsAt 1 ⟨"far", 6, true, [9], #[]⟩ 8 :=
    ⟨⟨rfl, by decide, rfl, by decide⟩, rfl, .inl rfl, by decide, by decide, by decide⟩
  have taken : overreaching.taken 0 = some 7 := by decide
  obtain ⟨halting, failing, taking⟩ := failed_service_keeps overreaching
  have scripted : ∀ d ∈ overreaching.devices, ∃ s, d = .scripted s
    | _, .head _ => ⟨_, rfl⟩
    | _, .tail _ (.head _) => ⟨_, rfl⟩
  obtain ⟨kept, untaken⟩ := (failing 1 _ 8 fails).2.1 (by decide)
  refine ⟨halting scripted rfl (by decide) (by decide), fails, kept, untaken, taken, ?_⟩
  exact (taking 0 _ 7 rfl taken).resolve_right fun lost => absurd lost.1 (by decide)

/-- A thread that yields, in a memory of eight bytes, beside a tape whose window goes round the end of the address space. -/
def roundTheEnd : Machine :=
  { Machine.new ⟨#[3, 0, 0, 0, 1, 0, 0, 0]⟩ 4 Table.builtIn with
    devices := [.scripted ⟨"tape", 0xFFFE, true, [7], #[]⟩] }

/-- **A service can fail after it has taken a byte**: the queue is empty, and the byte is nowhere in memory. -/
theorem roundTheEnd_loses :
    roundTheEnd.FailsAt 0 ⟨"tape", 0xFFFE, true, [7], #[]⟩ 0xFFFF ∧ roundTheEnd.taken 0 = some 7 ∧
    roundTheEnd.tick.devices = [.scripted ⟨"tape", 0xFFFE, true, [], #[3]⟩] ∧
    roundTheEnd.tick.core.memory = roundTheEnd.core.memory ∧
    ¬ ∀ (m : Machine) (k : Nat) (s : Scripted) (a : Address), m.FailsAt k s a →
      m.tick.devices[k]? = some (.scripted s) := by
  have fails : roundTheEnd.FailsAt 0 ⟨"tape", 0xFFFE, true, [7], #[]⟩ 0xFFFF :=
    ⟨⟨rfl, by decide, rfl, rfl⟩, rfl, .inr rfl, by decide, by decide, by decide⟩
  refine ⟨fails, by decide, by decide, by decide, fun keeps => ?_⟩
  have kept := keeps roundTheEnd 0 _ _ fails
  revert kept
  decide

end Machine
end CoopCpu
