import Mathlib.Data.List.Basic
import Mathlib.Data.List.Pairwise
import CoopCpu.Proofs.Service
/-!
# Proofs.AttachOrder — devices that keep clear of each other can be attached in any order

Devices whose bytes lie in memory have no fault, and if none of them gets its byte where another one gets or gives its own,
each finds in its turn what it would have found in the first (`serviceAll_of_apart`).  A round then delivers to distinct
places, so that the order is no matter for memory, and to each device its turn is the same (`serviceAll_inOrder`).  A
machine whose devices are attached in another order therefore goes the same way (`attach_order_immaterial`).
-/
namespace CoopCpu

namespace Memory

theorem set_comm (m : Memory) {a b : Address} (h : a ≠ b) (v w : Byte) : (m.set a v).set b w = (m.set b w).set a v :=
  congrArg Memory.mk (Array.setIfInBounds_comm v w fun e => h (UInt16.toNat_inj.1 e))

theorem deliver_set (m : Memory) {a : Address} (v : Byte) : ∀ {l : List Delivery}, (∀ x ∈ l, x.1 ≠ a) →
    (m.set a v).deliver l = (m.deliver l).set a v
  | [], _ => rfl
  | x :: rest, h => by
    show ((m.set a v).set x.1 x.2).deliver rest = ((m.set x.1 x.2).deliver rest).set a v
    rw [m.set_comm (h x List.mem_cons_self).symm v x.2]
    exact deliver_set _ v fun y hy => h y (List.mem_cons_of_mem x hy)

/-- **Deliveries to distinct places can be made in either order.** -/
theorem deliver_comm : ∀ (m : Memory) {l l' : List Delivery}, (∀ x ∈ l, ∀ y ∈ l', x.1 ≠ y.1) →
    (m.deliver l).deliver l' = (m.deliver l').deliver l
  | _, [], _, _ => rfl
  | m, x :: rest, l', h => by
    show ((m.set x.1 x.2).deliver rest).deliver l' = ((m.deliver l').set x.1 x.2).deliver rest
    rw [deliver_comm (m.set x.1 x.2) fun y hy => h y (List.mem_cons_of_mem x hy),
      m.deliver_set x.2 fun y hy => (h x List.mem_cons_self y hy).symm]

theorem get?_deliver {m : Memory} {a : Address} {l : List Delivery} (h : ∀ x ∈ l, a ≠ x.1) :
    (m.deliver l).get? a = m.get? a :=
  getElem?_deliver m l fun x hx e => h x hx (UInt16.toNat_inj.1 e)

end Memory

namespace Device

variable {m m' : Memory} {d d' : Device} {ds ds' : List Device} {size : Nat} {order : List Nat}

def served (m : Memory) (d : Device) : Device := (service m d).2.1

/-- Neither device gets its byte where the other one gets or gives its own. -/
def KeepsClear (d d' : Device) : Prop :=
  d.inputLocation ≠ d'.inputLocation ∧ d.inputLocation ≠ d'.outputLocation ∧ d'.inputLocation ≠ d.outputLocation

instance (d d' : Device) : Decidable (d.KeepsClear d') := inferInstanceAs (Decidable (_ ∧ _ ∧ _))

theorem KeepsClear.symm (h : d.KeepsClear d') : d'.KeepsClear d := ⟨h.1.symm, h.2.2, h.2.1⟩

instance : Std.Symm KeepsClear := ⟨fun _ _ => KeepsClear.symm⟩

/-- The bytes that the devices exchange lie in a memory of this size, and the devices keep clear of each other. -/
structure Apart (size : Nat) (ds : List Device) : Prop where
  output : ∀ d ∈ ds, d.outputLocation.toNat < size
  input : ∀ d ∈ ds, d.inputLocation.toNat < size
  clear : ds.Pairwise KeepsClear

theorem Apart.perm (h : Apart size ds) (perm : ds'.Perm ds) : Apart size ds' where
  output d hd := h.output d (perm.mem_iff.1 hd)
  input d hd := h.input d (perm.mem_iff.1 hd)
  clear := (perm.pairwise_iff KeepsClear.symm).2 h.clear

theorem Apart.tail {rest : List Device} (h : Apart size (d :: rest)) : Apart size rest where
  output d' hd := h.output d' (List.mem_cons_of_mem d hd)
  input d' hd := h.input d' (List.mem_cons_of_mem d hd)
  clear := h.clear.of_cons

/-! ## One turn -/

theorem location_served (m : Memory) (d : Device) : (served m d).location = d.location := by
  have location_serve (handed : Byte) : ∀ d : Device, (d.serve handed).2.location = d.location
    | .scripted _ => rfl
    | .keyboard _ => rfl
  have serviced := serviced m d
  unfold served
  generalize service m d = outcome at serviced ⊢
  cases serviced with
  | idle _ | unread _ _ => exact d.location_poll
  | done _ _ _ | unwritten _ _ _ => exact (location_serve _ _).trans d.location_poll

theorem Apart.served (h : Apart size ds) (m : Memory) : Apart size (ds.map (served m)) := by
  have input (d : Device) : (Device.served m d).inputLocation = d.inputLocation := congrArg (· + 1) (location_served m d)
  have output (d : Device) : (Device.served m d).outputLocation = d.outputLocation :=
    congrArg (· + 2) (location_served m d)
  refine ⟨List.forall_mem_map.2 fun d hd => ?_, List.forall_mem_map.2 fun d hd => ?_, List.pairwise_map.2 ?_⟩
  · rw [output]
    exact h.output d hd
  · rw [input]
    exact h.input d hd
  · unfold KeepsClear
    simp only [input, output]
    exact h.clear

theorem service_of_inMemory (output : d.outputLocation.toNat < m.size) (input : d.inputLocation.toNat < m.size) :
    service m d = (m.deliver (delivered m d), served m d, none) := by
  have done : (service m d).2.2 = none := by
    have serviced := serviced m d
    generalize service m d = outcome at serviced ⊢
    cases serviced with
    | idle _ | done _ _ _ => rfl
    | unread _ beyond => exact absurd output (Nat.not_lt.2 beyond)
    | unwritten _ _ beyond => exact absurd input (Nat.not_lt.2 beyond)
  exact Prod.ext (service_memory m d) (Prod.ext rfl done)

/-- **A turn depends on the byte that is handed over and on no other in memory.** -/
theorem delivered_congr (hsize : m'.size = m.size) (output : m'.get? d.outputLocation = m.get? d.outputLocation) :
    delivered m' d = delivered m d := by
  cases asks : d.poll.1 with
  | false => rw [delivered_of_idle m' asks, delivered_of_idle m asks]
  | true =>
    rw [delivered_of_asking m' asks, delivered_of_asking m asks]
    unfold exchanged Memory.read
    rw [outputLocation_poll, output, hsize]

theorem served_congr (output : m'.get? d.outputLocation = m.get? d.outputLocation) : served m' d = served m d := by
  have served_eq (m : Memory) : served m d =
      if d.poll.1 then ((m.get? d.outputLocation).map fun handed => (d.poll.2.serve handed).2).getD d.poll.2
      else d.poll.2 := by
    have serviced := serviced m d
    unfold served
    generalize service m d = outcome at serviced ⊢
    cases serviced with
    | idle silent => rw [silent]; rfl
    | done asks output _ | unwritten asks output _ => rw [asks, output]; rfl
    | unread asks output =>
      have unread : m.get? d.outputLocation = none := Array.getElem?_eq_none output
      rw [asks, unread]
      rfl
  rw [served_eq, served_eq, output]

theorem KeepsClear.get?_deliver (h : d.KeepsClear d') (m : Memory) :
    (m.deliver (delivered m d)).get? d'.outputLocation = m.get? d'.outputLocation :=
  Memory.get?_deliver fun _ hx e => h.2.1 (e.trans (of_mem_delivered hx).2.2.2).symm

/-! ## A round -/

/-- **In a round of devices that are apart, each turn is as it would be if it came first**, and none has a fault. -/
theorem serviceAll_of_apart : ∀ {m : Memory} {ds : List Device}, Apart m.size ds →
    serviceAll m ds = (m.deliver (ds.flatMap (delivered m)), ds.map (served m), none)
  | _, [], _ => rfl
  | m, d :: rest, h => by
    have hservice := service_of_inMemory (h.output d List.mem_cons_self) (h.input d List.mem_cons_self)
    have hsize : (m.deliver (delivered m d)).size = m.size := Memory.size_deliver _ _
    -- what has been delivered is nothing that a later device is handed
    have others : ∀ d' ∈ rest, delivered (m.deliver (delivered m d)) d' = delivered m d' ∧
        served (m.deliver (delivered m d)) d' = served m d' := fun d' hd' =>
      have unread := ((List.pairwise_cons.1 h.clear).1 d' hd').get?_deliver m
      ⟨delivered_congr hsize unread, served_congr unread⟩
    have htail : Apart (m.deliver (delivered m d)).size rest := hsize ▸ h.tail
    rw [serviceAll_cons_of_done (congrArg (·.2.2) hservice), hservice, serviceAll_of_apart htail,
      List.flatMap_congr fun d' hd' => (others d' hd').1, List.map_congr_left fun d' hd' => (others d' hd').2]
    unfold Memory.deliver
    rw [List.flatMap_cons, List.foldl_append]
    rfl

/-- **What devices that are apart are delivered, they can be delivered in any order.** -/
theorem Apart.deliver_perm (h : Apart size ds) (perm : ds'.Perm ds) (m m' : Memory) :
    m'.deliver (ds'.flatMap (delivered m)) = m'.deliver (ds.flatMap (delivered m)) := by
  unfold Memory.deliver
  rw [List.foldl_flatMap, List.foldl_flatMap]
  refine perm.foldl_eq' (fun d hd d' hd' memory => ?_) m'
  -- two turns of one device need not be exchanged
  by_cases same : d = d'
  · rw [same]
  · have clear := (h.perm perm).clear.forall hd hd' same
    refine Memory.deliver_comm memory fun x hx y hy e => clear.1 ?_
    rw [← (of_mem_delivered hx).2.2.2, ← (of_mem_delivered hy).2.2.2, e]

/-! ## Another order -/

/-- The devices of these numbers, in the order of the numbers. -/
def inOrder (order : List Nat) (ds : List Device) : List Device := order.filterMap fun k => ds[k]?

theorem inOrder_range : ∀ ds : List Device, inOrder (List.range ds.length) ds = ds
  | [] => rfl
  | d :: rest => by
    have first : (d :: rest)[0]? = some d := rfl
    unfold inOrder
    rw [List.length_cons, List.range_succ_eq_map, List.filterMap_cons_some first, List.filterMap_map]
    exact congrArg (d :: ·) (inOrder_range rest)

theorem inOrder_perm (perm : order.Perm (List.range ds.length)) : (inOrder order ds).Perm ds := by
  have h := perm.filterMap fun k => ds[k]?
  rw [show (List.range ds.length).filterMap (fun k => ds[k]?) = ds from inOrder_range ds] at h
  exact h

theorem inOrder_map (order : List Nat) (f : Device → Device) (ds : List Device) :
    inOrder order (ds.map f) = (inOrder order ds).map f := by
  unfold inOrder
  rw [List.map_filterMap]
  simp only [List.getElem?_map]

theorem getElem?_inOrder : ∀ {order : List Nat}, (∀ k ∈ order, k < ds.length) → ∀ {j k : Nat}, order[j]? = some k →
    (inOrder order ds)[j]? = ds[k]?
  | [], _, _, _, hj => by cases hj
  | first :: rest, inRange, j, k, hj => by
    have hfirst := List.getElem?_eq_getElem (inRange first List.mem_cons_self)
    unfold inOrder
    rw [List.filterMap_cons_some hfirst]
    cases j with
    | zero =>
      obtain rfl : first = k := Option.some.inj hj
      exact hfirst.symm
    | succ j => exact getElem?_inOrder (fun k hk => inRange k (List.mem_cons_of_mem first hk)) hj

/-- **A round in another order** does the same to memory, and the same to each device. -/
theorem serviceAll_inOrder (h : Apart m.size ds) (perm : order.Perm (List.range ds.length)) :
    serviceAll m (inOrder order ds) =
      (m.deliver (ds.flatMap (delivered m)), inOrder order (ds.map (served m)), none) := by
  rw [serviceAll_of_apart (h.perm (inOrder_perm perm)), h.deliver_perm (inOrder_perm perm), inOrder_map]

end Device

namespace Machine

variable {m : Machine} {order : List Nat}

/-- The machine with its devices attached anew, in the order of these numbers. -/
def attachedIn (m : Machine) (order : List Nat) : Machine :=
  (Device.inOrder order m.devices).foldl attach { m with devices := [] }

theorem foldl_attach : ∀ (m : Machine) (ds : List Device), ds.foldl attach m = { m with devices := m.devices ++ ds }
  | m, [] => by rw [List.append_nil]; rfl
  | m, d :: rest => by
    rw [List.foldl_cons, foldl_attach]
    unfold attach
    rw [List.append_assoc, List.singleton_append]

theorem attachedIn_eq (m : Machine) (order : List Nat) :
    m.attachedIn order = { m with devices := Device.inOrder order m.devices } :=
  foldl_attach _ _

theorem executed_attachedIn (m : Machine) (order : List Nat) :
    (m.attachedIn order).executed = m.executed.attachedIn order := by
  rw [attachedIn_eq, attachedIn_eq, executed_withDevices, executed_devices]

def DevicesApart (m : Machine) : Prop := Device.Apart m.core.memory.size m.devices

/-! ## One tick -/

theorem DevicesApart.executed (apart : m.DevicesApart) : Device.Apart m.executed.core.memory.size m.devices := by
  rw [Core.size_of_stepped m.stepped]
  exact apart

theorem DevicesApart.tick (apart : m.DevicesApart) :
    m.tick.DevicesApart ∧ m.tick.devices.length = m.devices.length := by
  unfold DevicesApart
  rw [size_tick]
  cases running : m.halted with
  | true =>
    rw [tick_of_halted running]
    exact ⟨apart, rfl⟩
  | false =>
    cases unfaulted : m.executed.halted with
    | true =>
      rw [tick_of_fault running unfaulted, executed_devices]
      exact ⟨apart, rfl⟩
    | false =>
      have round := Device.serviceAll_of_apart apart.executed
      rw [tick_of_round running unfaulted (congrArg (·.2.2) round), round]
      exact ⟨Device.Apart.served apart _, List.length_map _⟩

/-- **A tick does the same to the machine whose devices are attached in another order.** -/
theorem tick_attachedIn (apart : m.DevicesApart) (perm : order.Perm (List.range m.devices.length)) :
    (m.attachedIn order).tick = m.tick.attachedIn order := by
  have halted (m : Machine) : (m.attachedIn order).halted = m.halted := by rw [attachedIn_eq]
  have hexecuted := m.executed_attachedIn order
  cases running : m.halted with
  | true => rw [tick_of_halted running, tick_of_halted ((halted m).trans running)]
  | false =>
    cases unfaulted : m.executed.halted with
    | true =>
      rw [tick_of_fault running unfaulted, tick_of_fault ((halted m).trans running) (by rw [hexecuted, halted, unfaulted]),
        hexecuted]
    | false =>
      have round := Device.serviceAll_of_apart apart.executed
      have anew : Device.serviceAll (m.attachedIn order).executed.core.memory (m.attachedIn order).devices =
          Device.serviceAll m.executed.core.memory (Device.inOrder order m.devices) := by
        rw [hexecuted, attachedIn_eq, attachedIn_eq]
      rw [Device.serviceAll_inOrder apart.executed perm] at anew
      rw [tick_of_round running unfaulted (congrArg (·.2.2) round), round,
        tick_of_round ((halted m).trans running) (by rw [hexecuted, halted, unfaulted]) (congrArg (·.2.2) anew), anew,
        hexecuted, attachedIn_eq, attachedIn_eq]

/-! ## A run -/

theorem ticks_attachedIn (apart : m.DevicesApart) (perm : order.Perm (List.range m.devices.length)) : ∀ n : Nat,
    (ticks n m).DevicesApart ∧ (ticks n m).devices.length = m.devices.length ∧
      ticks n (m.attachedIn order) = (ticks n m).attachedIn order
  | 0 => ⟨apart, rfl, rfl⟩
  | n + 1 => by
    obtain ⟨hapart, hlength, hticks⟩ := ticks_attachedIn apart perm n
    rw [ticks_succ, ticks_succ, hticks]
    refine ⟨hapart.tick.1, hapart.tick.2.trans hlength, tick_attachedIn hapart ?_⟩
    rw [hlength]
    exact perm

/-- **The order in which devices are attached does not matter** if the bytes that they exchange lie in memory and none of
them gets its byte where another one gets or gives its own.  After any number of ticks the machine has the same snapshot,
and each device is the same, whichever order they were attached in. -/
theorem attach_order_immaterial (m : Machine) (order : List Nat) (perm : order.Perm (List.range m.devices.length))
    (apart : m.DevicesApart) (n : Nat) :
    (ticks n (m.attachedIn order)).snapshot = (ticks n m).snapshot ∧
    (ticks n (m.attachedIn order)).devices.length = (ticks n m).devices.length ∧
    ∀ j k : Nat, order[j]? = some k → (ticks n (m.attachedIn order)).devices[j]? = (ticks n m).devices[k]? := by
  obtain ⟨-, hlength, hticks⟩ := ticks_attachedIn apart perm n
  have perm' : order.Perm (List.range (ticks n m).devices.length) := hlength ▸ perm
  rw [hticks, attachedIn_eq]
  refine ⟨rfl, (Device.inOrder_perm perm').length_eq, fun j k hj => Device.getElem?_inOrder (fun k' hk => ?_) hj⟩
  exact List.mem_range.1 (perm'.mem_iff.1 hk)

/-- A thread that puts the sum of the bytes which two tapes have delivered where a third one is handed its byte. -/
def relaying : Machine :=
  { Machine.new ⟨#[0, 0, 0, 0, 8, 0, 33, 0, 8, 0, 37, 1, 13, 0, 1, 0, 9, 1, 0, 42, 4, 0, 4, 0,
      0, 0, 0, 0, 0, 0, 0, 0, 0, 0, 0, 0, 0, 0, 0, 0, 0, 0, 0]⟩ 4 Table.builtIn with
    devices := [.scripted ⟨"first", 32, true, [3, 4], #[]⟩, .scripted ⟨"second", 36, true, [5], #[]⟩,
      .scripted ⟨"third", 40, true, [0, 0, 0, 0], #[]⟩] }

theorem relaying_order_immaterial : [2, 0, 1].Perm (List.range relaying.devices.length) ∧ relaying.DevicesApart ∧
    (ticks 4 (relaying.attachedIn [2, 0, 1])).snapshot = (ticks 4 relaying).snapshot ∧
    (ticks 4 relaying).core.memory.get? 42 = some 5 ∧
    (ticks 4 (relaying.attachedIn [2, 0, 1])).devices[0]? = some (.scripted ⟨"third", 40, true, [], #[0, 0, 0, 5]⟩) := by
  have perm : [2, 0, 1].Perm (List.range relaying.devices.length) := by decide
  have apart : relaying.DevicesApart := ⟨by decide, by decide, by decide⟩
  obtain ⟨snapshot, -, device⟩ := attach_order_immaterial relaying [2, 0, 1] perm apart 4
  refine ⟨perm, apart, snapshot, by decide, ?_⟩
  rw [device 0 2 rfl]
  decide

end Machine
end CoopCpu
