import CoopCpu.Proofs.Lock
import CoopCpu.Service
/-!
# Proofs.Service — a round of service, turn by turn

A service goes in one of four ways (`serviced`).  What comes after the first turn of a round is a round of the other devices
(`reached_succ_iff`, `memoryAt_succ`), so facts about the turn of a device are proved along the list.  A device whose turn
comes is left as its service leaves it and any other as it was (`getElem?_serviceAll`), a round ends at the device whose
service has a fault (`reached_of_fault`, `serviceAll_of_fault`), and it changes memory only where a device is served
(`bytes_serviceAll`, `served_of_mem_deliveries`).
-/
namespace CoopCpu

namespace Memory

theorem getElem?_set (m : Memory) (a : Address) (value : Byte) {p : Nat} (h : p ≠ a.toNat) :
    (m.set a value).bytes[p]? = m.bytes[p]? := by
  rw [bytes_set, if_neg fun written => h written.1]

theorem getElem?_deliver {p : Nat} : ∀ (m : Memory) (deliveries : List Delivery),
    (∀ d ∈ deliveries, p ≠ d.1.toNat) → (m.deliver deliveries).bytes[p]? = m.bytes[p]?
  | _, [], _ => rfl
  | m, d :: rest, h => by
    show ((m.set d.1 d.2).deliver rest).bytes[p]? = _
    rw [getElem?_deliver _ rest fun d' hd' => h d' (List.mem_cons_of_mem _ hd'),
      getElem?_set m d.1 d.2 (h d List.mem_cons_self)]

end Memory

namespace Device

variable {m : Memory} {d d₀ : Device} {ds rest : List Device} {k : Nat} {fault : Fault}

/-! ## One turn -/

theorem location_poll : ∀ d : Device, d.poll.2.location = d.location
  | .scripted _ => rfl
  | .keyboard _ => rfl

theorem outputLocation_poll (d : Device) : d.poll.2.outputLocation = d.outputLocation :=
  congrArg (· + 2) d.location_poll

theorem inputLocation_poll (d : Device) : d.poll.2.inputLocation = d.inputLocation :=
  congrArg (· + 1) d.location_poll

theorem service_of_idle (m : Memory) (h : d.poll.1 = false) : service m d = (m, d.poll.2, none) := by
  unfold service
  rw [show d.poll = (false, d.poll.2) from Prod.ext h rfl]

theorem service_of_asking (m : Memory) (h : d.poll.1 = true) : service m d = exchange m d.poll.2 := by
  unfold service
  rw [show d.poll = (true, d.poll.2) from Prod.ext h rfl]

/-- **An exchange in memory** takes a byte from the device, puts it at the input location and has no fault. -/
theorem exchange_of_read {handed : Byte} (output : m.get? d.outputLocation = some handed)
    (input : d.inputLocation.toNat < m.size) :
    exchange m d = (m.set d.inputLocation (d.serve handed).1, (d.serve handed).2, none) := by
  unfold exchange
  rw [(Memory.read_eq_ok_iff m _ _).2 output]
  simp only [Memory.write_of_lt input]

theorem exchange_of_unread (output : m.size ≤ d.outputLocation.toNat) :
    exchange m d = (m, d, some (Memory.outOfBounds d.outputLocation)) := by
  unfold exchange
  rw [Memory.read_of_le output]

/-- **An exchange whose byte cannot land** has taken it from the device all the same. -/
theorem exchange_of_unwritten {handed : Byte} (output : m.get? d.outputLocation = some handed)
    (input : m.size ≤ d.inputLocation.toNat) :
    exchange m d = (m, (d.serve handed).2, some (Memory.outOfBounds d.inputLocation)) := by
  unfold exchange
  rw [(Memory.read_eq_ok_iff m _ _).2 output]
  simp only [Memory.write_of_le input]

/-- How the service of a device can go. -/
inductive Serviced (m : Memory) (d : Device) : Memory × Device × Option Fault → Prop
  | idle (silent : d.poll.1 = false) : Serviced m d (m, d.poll.2, none)
  | done (asks : d.poll.1 = true) {handed : Byte} (output : m.get? d.outputLocation = some handed)
    (input : d.inputLocation.toNat < m.size) :
    Serviced m d (m.set d.inputLocation (d.poll.2.serve handed).1, (d.poll.2.serve handed).2, none)
  | unread (asks : d.poll.1 = true) (output : m.size ≤ d.outputLocation.toNat) :
    Serviced m d (m, d.poll.2, some (Memory.outOfBounds d.outputLocation))
  | unwritten (asks : d.poll.1 = true) {handed : Byte} (output : m.get? d.outputLocation = some handed)
    (input : m.size ≤ d.inputLocation.toNat) :
    Serviced m d (m, (d.poll.2.serve handed).2, some (Memory.outOfBounds d.inputLocation))

theorem service_of_read {handed : Byte} (asks : d.poll.1 = true) (output : m.get? d.outputLocation = some handed)
    (input : d.inputLocation.toNat < m.size) :
    service m d = (m.set d.inputLocation (d.poll.2.serve handed).1, (d.poll.2.serve handed).2, none) := by
  rw [service_of_asking m asks, exchange_of_read (by rw [outputLocation_poll]; exact output)
    (by rw [inputLocation_poll]; exact input), inputLocation_poll]

/-- **A service goes in one of four ways.** -/
theorem serviced (m : Memory) (d : Device) : Serviced m d (service m d) := by
  cases asks : d.poll.1 with
  | false =>
    rw [service_of_idle m asks]
    exact .idle asks
  | true =>
    by_cases output : d.outputLocation.toNat < m.size
    · obtain ⟨handed, hhanded⟩ := (Memory.get?_eq_some_iff m _).2 output
      by_cases input : d.inputLocation.toNat < m.size
      · rw [service_of_read asks hhanded input]
        exact .done asks hhanded input
      · have beyond := Nat.le_of_not_lt input
        rw [service_of_asking m asks, exchange_of_unwritten (by rw [outputLocation_poll]; exact hhanded)
          (by rw [inputLocation_poll]; exact beyond), inputLocation_poll]
        exact .unwritten asks hhanded beyond
    · have beyond := Nat.le_of_not_lt output
      rw [service_of_asking m asks, exchange_of_unread (by rw [outputLocation_poll]; exact beyond), outputLocation_poll]
      exact .unread asks beyond

theorem taken_of_idle (m : Memory) (h : d.poll.1 = false) : d.taken m = none := by
  unfold taken
  rw [show d.poll = (false, d.poll.2) from Prod.ext h rfl]

theorem taken_of_asking (m : Memory) (h : d.poll.1 = true) :
    d.taken m = (m.read d.outputLocation).toOption.map fun handed => (d.poll.2.serve handed).1 := by
  unfold taken
  rw [show d.poll = (true, d.poll.2) from Prod.ext h rfl]
  simp only [outputLocation_poll]
  cases m.read d.outputLocation <;> rfl

theorem taken_of_read {handed : Byte} (asks : d.poll.1 = true) (output : m.get? d.outputLocation = some handed) :
    d.taken m = some (d.poll.2.serve handed).1 := by
  rw [taken_of_asking m asks, (Memory.read_eq_ok_iff m _ _).2 output]
  rfl

theorem delivered_of_idle (m : Memory) (h : d.poll.1 = false) : delivered m d = [] := by
  unfold delivered
  rw [show d.poll = (false, d.poll.2) from Prod.ext h rfl]

theorem delivered_of_asking (m : Memory) (h : d.poll.1 = true) : delivered m d = exchanged m d.poll.2 := by
  unfold delivered
  rw [show d.poll = (true, d.poll.2) from Prod.ext h rfl]

/-- What a turn delivers, it delivers to a device that asks and whose bytes lie in memory. -/
theorem of_mem_delivered {delivery : Delivery} (h : delivery ∈ delivered m d) :
    d.poll.1 = true ∧ d.outputLocation.toNat < m.size ∧ d.inputLocation.toNat < m.size ∧
      delivery.1 = d.inputLocation := by
  cases hasks : d.poll.1 with
  | false =>
    rw [delivered_of_idle m hasks] at h
    cases h
  | true =>
    rw [delivered_of_asking m hasks] at h
    simp only [exchanged, outputLocation_poll, inputLocation_poll] at h
    cases hread : m.read d.outputLocation with
    | error fault => rw [hread] at h; cases h
    | ok handed =>
      rw [hread] at h
      by_cases input : d.inputLocation.toNat < m.size
      · simp only [if_pos input, List.mem_singleton] at h
        exact ⟨rfl, Memory.lt_size_of_read hread, input, congrArg Prod.fst h⟩
      · simp only [if_neg input] at h
        cases h

theorem size_service (m : Memory) (d : Device) : (service m d).1.size = m.size := by
  rw [service_memory, Memory.size_deliver]

/-! ## The turns of a round -/

theorem serviceAll_cons_of_fault (h : (service m d).2.2 = some fault) :
    serviceAll m (d :: rest) = ((service m d).1, (service m d).2.1 :: rest, some fault) := by
  have hs : service m d = ((service m d).1, (service m d).2.1, some fault) := by rw [← h]
  conv => lhs; unfold serviceAll
  rw [hs]

theorem serviceAll_cons_of_done (h : (service m d).2.2 = none) : serviceAll m (d :: rest) =
    ((serviceAll (service m d).1 rest).1, (service m d).2.1 :: (serviceAll (service m d).1 rest).2.1,
      (serviceAll (service m d).1 rest).2.2) := by
  have hs : service m d = ((service m d).1, (service m d).2.1, none) := by rw [← h]
  conv => lhs; unfold serviceAll
  rw [hs]

theorem memoryAt_succ (h : (service m d₀).2.2 = none) (rest : List Device) (k : Nat) :
    memoryAt m (d₀ :: rest) (k + 1) = memoryAt (service m d₀).1 rest k := by
  unfold memoryAt
  rw [List.take_succ_cons, serviceAll_cons_of_done h]

theorem reached_zero_iff : Reached m (d₀ :: rest) 0 d ↔ d = d₀ := by
  constructor
  · intro h
    exact (Option.some.inj h.device).symm
  · rintro rfl
    exact ⟨rfl, rfl⟩

/-- **The turn of a later device comes** if the first has no fault and it comes in the round of the others. -/
theorem reached_succ_iff : Reached m (d₀ :: rest) (k + 1) d ↔
    (service m d₀).2.2 = none ∧ Reached (service m d₀).1 rest k d := by
  constructor
  · intro h
    have hfault := h.unfaulted
    rw [List.take_succ_cons] at hfault
    cases hs : (service m d₀).2.2 with
    | some fault => rw [serviceAll_cons_of_fault hs] at hfault; cases hfault
    | none =>
      rw [serviceAll_cons_of_done hs] at hfault
      exact ⟨rfl, h.device, hfault⟩
  · rintro ⟨hs, h⟩
    refine ⟨h.device, ?_⟩
    rw [List.take_succ_cons, serviceAll_cons_of_done hs]
    exact h.unfaulted

theorem Served.succ (hs : (service m d₀).2.2 = none) (h : Served (service m d₀).1 rest k d) :
    Served m (d₀ :: rest) (k + 1) d where
  reached := reached_succ_iff.2 ⟨hs, h.reached⟩
  asks := h.asks
  output := by rw [← size_service m d₀]; exact h.output
  input := by rw [← size_service m d₀]; exact h.input

/-- **A device whose turn comes is left as its service leaves it, any other as it was.** -/
theorem getElem?_serviceAll : ∀ {m : Memory} {ds : List Device} {k : Nat} {d : Device}, ds[k]? = some d →
    (Reached m ds k d → (serviceAll m ds).2.1[k]? = some (service (memoryAt m ds k) d).2.1) ∧
    (¬ Reached m ds k d → (serviceAll m ds).2.1[k]? = some d)
  | m, d₀ :: rest, 0, d, h => by
    obtain rfl : d₀ = d := Option.some.inj h
    refine ⟨fun _ => ?_, fun hn => absurd (reached_zero_iff.2 rfl) hn⟩
    cases hs : (service m d₀).2.2 with
    | some fault => rw [serviceAll_cons_of_fault hs]; rfl
    | none => rw [serviceAll_cons_of_done hs]; rfl
  | m, d₀ :: rest, k + 1, d, h => by
    cases hs : (service m d₀).2.2 with
    | some fault =>
      rw [serviceAll_cons_of_fault hs, reached_succ_iff, hs]
      exact ⟨fun hr => (by cases hr.1), fun _ => h⟩
    | none =>
      rw [serviceAll_cons_of_done hs, reached_succ_iff, memoryAt_succ hs]
      have hrest : rest[k]? = some d := h
      obtain ⟨hreached, hpassed⟩ := getElem?_serviceAll (m := (service m d₀).1) hrest
      exact ⟨fun hr => hreached hr.2, fun hn => hpassed fun hr => hn ⟨hs, hr⟩⟩

/-- **After a turn without a fault it is the turn of the next device.** -/
theorem memoryAt_next : ∀ {m : Memory} {ds : List Device} {k : Nat} {d : Device}, Reached m ds k d →
    (service (memoryAt m ds k) d).2.2 = none →
    memoryAt m ds (k + 1) = (service (memoryAt m ds k) d).1 ∧ (serviceAll m (ds.take (k + 1))).2.2 = none
  | m, d₀ :: rest, 0, d, h, done => by
    obtain rfl := reached_zero_iff.1 h
    have first : (service m d).2.2 = none := done
    rw [memoryAt_succ first, List.take_succ_cons, serviceAll_cons_of_done first]
    exact ⟨rfl, rfl⟩
  | m, d₀ :: rest, k + 1, d, h, done => by
    obtain ⟨hs, hreached⟩ := reached_succ_iff.1 h
    rw [memoryAt_succ hs] at done ⊢
    rw [memoryAt_succ hs, List.take_succ_cons, serviceAll_cons_of_done hs]
    exact memoryAt_next hreached done
  | m, [], k, d, h, _ => by cases h.device

/-- **A round that ends with a fault ends at a device whose service has that fault.** -/
theorem reached_of_fault : ∀ {m : Memory} {ds : List Device}, (serviceAll m ds).2.2 = some fault →
    ∃ k d, Reached m ds k d ∧ (service (memoryAt m ds k) d).2.2 = some fault
  | _, [], h => by cases h
  | m, d :: rest, h => by
    cases hs : (service m d).2.2 with
    | some first =>
      rw [serviceAll_cons_of_fault hs] at h
      exact ⟨0, d, reached_zero_iff.2 rfl, hs.trans h⟩
    | none =>
      rw [serviceAll_cons_of_done hs] at h
      obtain ⟨k, d', hreached, hfault⟩ := reached_of_fault h
      refine ⟨k + 1, d', reached_succ_iff.2 ⟨hs, hreached⟩, ?_⟩
      rw [memoryAt_succ hs]
      exact hfault

/-- **A device whose service has a fault is the last whose turn comes.** -/
theorem serviceAll_of_fault : ∀ {m : Memory} {ds : List Device} {k : Nat}, Reached m ds k d →
    (service (memoryAt m ds k) d).2.2 = some fault →
    (serviceAll m ds).1 = (service (memoryAt m ds k) d).1 ∧ (serviceAll m ds).2.2 = some fault
  | m, [], _, hreached, _ => by cases hreached.device
  | m, d₀ :: rest, 0, hreached, hfault => by
    obtain rfl := reached_zero_iff.1 hreached
    have first : (service m d).2.2 = some fault := hfault
    rw [serviceAll_cons_of_fault first]
    exact ⟨rfl, rfl⟩
  | m, d₀ :: rest, k + 1, hreached, hfault => by
    obtain ⟨hs, hreached⟩ := reached_succ_iff.1 hreached
    rw [memoryAt_succ hs] at hfault ⊢
    rw [serviceAll_cons_of_done hs]
    exact serviceAll_of_fault hreached hfault

/-- **A round of service has no other faults than accesses beyond the end of memory.** -/
theorem outOfBounds_of_fault (h : (serviceAll m ds).2.2 = some fault) : ∃ a, fault = Memory.outOfBounds a := by
  obtain ⟨k, d, -, hfault⟩ := reached_of_fault h
  have serviced := serviced (memoryAt m ds k) d
  generalize service (memoryAt m ds k) d = outcome at serviced hfault
  cases serviced with
  | idle _ | done _ _ _ => cases hfault
  | unread _ _ | unwritten _ _ _ => exact ⟨_, (Option.some.inj hfault).symm⟩

/-- **From one turn on, a round changes memory only where a device is served.** -/
theorem bytes_serviceAll {p : Nat} : ∀ {m : Memory} {ds : List Device} {k : Nat},
    (serviceAll m (ds.take k)).2.2 = none →
    (∀ j d, k ≤ j → Served m ds j d → d.inputLocation.toNat ≠ p) →
    (serviceAll m ds).1.bytes[p]? = (memoryAt m ds k).bytes[p]?
  | _, [], _, _, _ => by
    unfold memoryAt
    rw [List.take_nil]
  | m, d₀ :: rest, 0, _, quiet => by
    have first : (service m d₀).1.bytes[p]? = m.bytes[p]? := by
      rw [service_memory]
      refine Memory.getElem?_deliver m _ fun delivery hd => ?_
      obtain ⟨asks, output, input, hplace⟩ := of_mem_delivered hd
      rw [hplace]
      exact (quiet 0 d₀ (Nat.le_refl 0) ⟨reached_zero_iff.2 rfl, asks, output, input⟩).symm
    cases hs : (service m d₀).2.2 with
    | some fault =>
      rw [serviceAll_cons_of_fault hs]
      exact first
    | none =>
      rw [serviceAll_cons_of_done hs]
      have hrest := @bytes_serviceAll p (service m d₀).1 rest 0 rfl fun j d _ h =>
        quiet (j + 1) d (Nat.zero_le _) (h.succ hs)
      exact hrest.trans first
  | m, d₀ :: rest, k + 1, unfaulted, quiet => by
    cases hs : (service m d₀).2.2 with
    | some fault =>
      rw [List.take_succ_cons, serviceAll_cons_of_fault hs] at unfaulted
      cases unfaulted
    | none =>
      rw [List.take_succ_cons, serviceAll_cons_of_done hs] at unfaulted
      rw [serviceAll_cons_of_done hs, memoryAt_succ hs]
      exact bytes_serviceAll unfaulted fun j d hj h => quiet (j + 1) d (Nat.succ_le_succ hj) (h.succ hs)

/-- **What a round delivers, it delivers to a device that is served.** -/
theorem served_of_mem_deliveries {delivery : Delivery} : ∀ {m : Memory} {ds : List Device},
    delivery ∈ deliveries m ds → ∃ k d, Served m ds k d ∧ d.inputLocation = delivery.1
  | _, [], h => by cases h
  | m, d₀ :: rest, h => by
    have first (h : delivery ∈ delivered m d₀) : ∃ k d, Served m (d₀ :: rest) k d ∧ d.inputLocation = delivery.1 := by
      obtain ⟨asks, output, input, hplace⟩ := of_mem_delivered h
      exact ⟨0, d₀, ⟨reached_zero_iff.2 rfl, asks, output, input⟩, hplace.symm⟩
    unfold deliveries at h
    cases hs : service m d₀ with
    | mk m' r =>
      obtain ⟨d', fault?⟩ := r
      rw [hs] at h
      cases fault? with
      | some fault => exact first h
      | none =>
        rcases List.mem_append.1 h with h | h
        · exact first h
        · obtain ⟨k, d, hserved, hplace⟩ := served_of_mem_deliveries h
          have hserved' : Served (service m d₀).1 rest k d := by rw [hs]; exact hserved
          exact ⟨k + 1, d, hserved'.succ (by rw [hs]), hplace⟩

end Device

namespace Machine

theorem halt_withDevices (m : Machine) (devices : List Device) (fault : Fault) :
    ({ m with devices } : Machine).halt fault = { m.halt fault with devices } := by
  unfold halt
  by_cases h : m.halted = true
  · rw [if_pos h, if_pos h]
  · rw [if_neg h, if_neg h]

theorem halt_devices (m : Machine) (fault : Fault) : (m.halt fault).devices = m.devices := by
  have h := congrArg Machine.devices (m.halt_withDevices m.devices fault)
  exact h

/-- **The devices make no difference to the instruction.** -/
theorem executed_withDevices (m : Machine) (devices : List Device) :
    ({ m with devices } : Machine).executed = { m.executed with devices } := by
  unfold executed
  cases m.core.step m.table with
  | mk c fault =>
    cases fault with
    | none => rfl
    | some f => exact halt_withDevices { m with core := c } devices f

theorem executed_devices (m : Machine) : m.executed.devices = m.devices := by
  have h := congrArg Machine.devices (m.executed_withDevices m.devices)
  exact h

theorem serviceDevices_devices (m : Machine) :
    m.serviceDevices.devices = (Device.serviceAll m.core.memory m.devices).2.1 := by
  unfold serviceDevices
  cases Device.serviceAll m.core.memory m.devices with
  | mk memory r =>
    obtain ⟨devices, fault⟩ := r
    cases fault with
    | none => rfl
    | some f => exact halt_devices _ f

variable {m : Machine} {k : Nat} {d : Device}

theorem tick_of_round (running : m.halted = false) (unfaulted : m.executed.halted = false)
    (round : (Device.serviceAll m.executed.core.memory m.devices).2.2 = none) : m.tick = { m.executed with
      core := { m.executed.core with memory := (Device.serviceAll m.executed.core.memory m.devices).1 }
      devices := (Device.serviceAll m.executed.core.memory m.devices).2.1 } := by
  rw [tick_of_done running unfaulted]
  refine serviceDevices_of_done ?_
  rw [executed_devices, ← round]

theorem tick_of_failed_round {fault : Fault} (running : m.halted = false) (unfaulted : m.executed.halted = false)
    (round : (Device.serviceAll m.executed.core.memory m.devices).2.2 = some fault) : m.tick = { m.executed with
      core := { m.executed.core with memory := (Device.serviceAll m.executed.core.memory m.devices).1 }
      devices := (Device.serviceAll m.executed.core.memory m.devices).2.1
      halted := true
      reason := some fault } := by
  rw [tick_of_done running unfaulted]
  refine serviceDevices_of_fault unfaulted ?_
  rw [executed_devices, ← round]

theorem Serves.reaches (h : m.Serves k d) : m.Reaches k d := ⟨h.running, h.unfaulted, h.served.reached⟩

theorem Reaches.device (h : m.Reaches k d) : m.devices[k]? = some d := h.reached.device

theorem taken_of_reaches (h : m.Reaches k d) : m.taken k = d.taken (m.memoryAt k) := by
  have hs : Device.serviceAll m.executed.core.memory (m.devices.take k) =
      (m.memoryAt k, (Device.serviceAll m.executed.core.memory (m.devices.take k)).2.1, none) := by
    rw [← h.reached.unfaulted]
    rfl
  unfold taken
  rw [h.running, h.unfaulted, h.device, hs]
  rfl

/-- **Nothing is taken from a device whose turn does not come.** -/
theorem taken_of_not_reaches (attached : m.devices[k]? = some d) (h : ¬ m.Reaches k d) : m.taken k = none := by
  unfold taken
  cases running : m.halted with
  | true => rfl
  | false =>
    cases unfaulted : m.executed.halted with
    | true => rfl
    | false =>
      rw [attached]
      cases hs : Device.serviceAll m.executed.core.memory (m.devices.take k) with
      | mk memory r =>
        obtain ⟨devices, fault?⟩ := r
        cases fault? with
        | some fault => rfl
        | none => exact absurd ⟨running, unfaulted, attached, by rw [hs]⟩ h

theorem size_memoryAt (m : Machine) (k : Nat) : (m.memoryAt k).size = m.core.memory.size := by
  unfold memoryAt Device.memoryAt
  rw [Device.serviceAll_memory, Memory.size_deliver]
  exact Core.size_of_stepped m.stepped

/-- **A tick leaves a device whose turn comes as its service leaves it, and any other as it was.** -/
theorem getElem?_devices_tick (attached : m.devices[k]? = some d) :
    (m.Reaches k d → m.tick.devices[k]? = some (Device.service (m.memoryAt k) d).2.1) ∧
    (¬ m.Reaches k d → m.tick.devices[k]? = some d) := by
  cases running : m.halted with
  | true =>
    rw [tick_of_halted running]
    exact ⟨fun h => absurd h.running (by rw [running]; exact Bool.noConfusion), fun _ => attached⟩
  | false =>
    cases unfaulted : m.executed.halted with
    | true =>
      rw [tick_of_fault running unfaulted, executed_devices]
      exact ⟨fun h => absurd h.unfaulted (by rw [unfaulted]; exact Bool.noConfusion), fun _ => attached⟩
    | false =>
      rw [tick_of_done running unfaulted, serviceDevices_devices, executed_devices]
      obtain ⟨hreached, hpassed⟩ := Device.getElem?_serviceAll (m := m.executed.core.memory) attached
      exact ⟨fun h => hreached h.reached, fun hn => hpassed fun h => hn ⟨running, unfaulted, h⟩⟩

/-- **From one turn on, a tick changes memory only where a device is served.** -/
theorem bytes_tick {p : Nat} (running : m.halted = false) (unfaulted : m.executed.halted = false)
    (before : (Device.serviceAll m.executed.core.memory (m.devices.take k)).2.2 = none)
    (quiet : ∀ j d, k ≤ j → m.Serves j d → d.inputLocation.toNat ≠ p) :
    m.tick.core.memory.bytes[p]? = (m.memoryAt k).bytes[p]? := by
  rw [tick_of_done running unfaulted, serviceDevices_core, executed_devices]
  exact Device.bytes_serviceAll before fun j d hj h => quiet j d hj ⟨running, unfaulted, h⟩

theorem serves_of_mem_deliveries {delivery : Delivery} (h : delivery ∈ m.deliveries) :
    ∃ k d, m.Serves k d ∧ d.inputLocation = delivery.1 := by
  unfold deliveries at h
  cases running : m.halted with
  | true => rw [running] at h; cases h
  | false =>
    cases unfaulted : m.executed.halted with
    | true => rw [unfaulted, Bool.or_true] at h; cases h
    | false =>
      rw [running, unfaulted, executed_devices] at h
      obtain ⟨k, d, hserved, hplace⟩ := Device.served_of_mem_deliveries h
      exact ⟨k, d, ⟨running, unfaulted, hserved⟩, hplace⟩

end Machine
end CoopCpu
