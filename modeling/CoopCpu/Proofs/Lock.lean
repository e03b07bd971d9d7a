import CoopCpu.Proofs.Runs
/-!
# Proofs.Lock — a bit of memory as a lock

A test-and-set takes the lock if it finds the bit clear (`Machine.Acquires`), and the lock is given back by a store or a
delivery whose byte has the bit clear (`Machine.Releases`).  Nothing else clears the bit: once it is set it stays set
through every instruction and every round of service (`bitSet_tick`), so between two acquisitions there is a release
(`testAndSet_locks`).
-/
namespace CoopCpu

/-! ## A bit that is set -/

namespace Memory

/-- The memory reaches to the address and the bit of the byte there is set. -/
def BitSet (m : Memory) (a : Address) (o : BitIndex) : Prop := ∃ b, m.get? a = some b ∧ Byte.bit b o = true

theorem BitSet.lt_size {m : Memory} {a : Address} {o : BitIndex} (h : m.BitSet a o) : a.toNat < m.size := by
  obtain ⟨b, hb, -⟩ := h
  exact (get?_eq_some_iff m a).1 ⟨b, hb⟩

theorem BitSet.set {m : Memory} {a : Address} {o : BitIndex} (h : m.BitSet a o) (a' : Address) (value : Byte) :
    (m.set a' value).BitSet a o ∨ a' = a ∧ Byte.bit value o = false := by
  by_cases ha : a' = a
  · cases hv : Byte.bit value o with
    | true =>
      refine .inl ⟨value, ?_, hv⟩
      rw [get?_set, if_pos ⟨ha.symm, ha ▸ h.lt_size⟩]
    | false => exact .inr ⟨ha, rfl⟩
  · obtain ⟨b, hb, hbit⟩ := h
    refine .inl ⟨b, ?_, hbit⟩
    rw [get?_set_of_ne m fun e => ha e.symm, hb]

theorem BitSet.set_withBit {m : Memory} {a : Address} {o : BitIndex} (h : m.BitSet a o) {a' : Address} {b : Byte}
    (hb : m.get? a' = some b) (i : BitIndex) : (m.set a' (Byte.withBit b i true)).BitSet a o := by
  refine (h.set a' _).resolve_right ?_
  rintro ⟨rfl, hclear⟩
  obtain ⟨b', hb', hbit⟩ := h
  have hbb : b' = b := Option.some.inj (hb'.symm.trans hb)
  rw [Byte.bit_withBit, ← hbb, hbit] at hclear
  by_cases ho : o = i
  · rw [if_pos ho] at hclear; cases hclear
  · rw [if_neg ho] at hclear; cases hclear

theorem BitSet.deliver {a : Address} {o : BitIndex} : ∀ {m : Memory} (deliveries : List Delivery), m.BitSet a o →
    (m.deliver deliveries).BitSet a o ∨ ∃ value, (a, value) ∈ deliveries ∧ Byte.bit value o = false
  | _, [], h => .inl h
  | m, (a', value) :: rest, h => by
    rcases h.set a' value with hset | ⟨rfl, hclear⟩
    · rcases BitSet.deliver rest hset with hrest | ⟨v, hv, hclear⟩
      · exact .inl hrest
      · exact .inr ⟨v, List.mem_cons_of_mem _ hv, hclear⟩
    · exact .inr ⟨value, List.mem_cons_self, hclear⟩

theorem size_deliver : ∀ (m : Memory) (deliveries : List Delivery), (m.deliver deliveries).size = m.size
  | _, [] => rfl
  | m, (a, value) :: rest => by
    show ((m.set a value).deliver rest).size = m.size
    rw [size_deliver, size_set]

end Memory

/-! ## One step -/

def Effect.written : Effect → List Delivery
  | .store position value | .testAndSet _ position value => [(position, value)]
  | _ => []

namespace Core

/-- **An effect changes memory by what it writes.** -/
theorem apply_memory (c : Core) : ∀ effect : Effect, (c.apply effect).memory = c.memory.deliver effect.written
  | .none | .jump _ | .handOver | .retire | .start _ _ | .setRegister _ _ | .setFlags _ => rfl
  | .calculate _ (some _) | .calculate _ none => rfl
  | .store _ _ | .testAndSet _ _ _ => rfl

theorem size_of_stepped {t : Table} {c c' : Core} {fault? : Option Fault} (h : Stepped t c c' fault?) :
    c'.memory.size = c.memory.size := by
  cases h with
  | idle h => rfl
  | atEnd active past => rw [handOver_eq]
  | undecoded ready h => rw [fetched_memory]
  | refused ready decoded h => rw [fetched_memory]
  | done ready decoded h => rw [apply_memory, Memory.size_deliver, fetched_memory]

theorem bitSet_of_stepped {t : Table} {c c' : Core} {fault? : Option Fault} (h : Stepped t c c' fault?) {a : Address}
    {o : BitIndex} (hset : c.memory.BitSet a o) :
    c'.memory.BitSet a o ∨ fault? = none ∧ c.Ready ∧ ∃ code value,
      t.decode c.memory c.fetchAddress = .ok (.store code a) ∧ c.fetched.byteRegister code = .ok value ∧
      Byte.bit value o = false := by
  cases h with
  | idle h => exact .inl hset
  | atEnd active past => rw [handOver_eq]; exact .inl hset
  | undecoded ready h => rw [fetched_memory]; exact .inl hset
  | refused ready decoded h => rw [fetched_memory]; exact .inl hset
  | @done ready i effect decoded h =>
    have hsource := source_of_evaluate h
    rw [← fetched_memory] at hset
    rw [apply_memory]
    cases effect with
    | store position value =>
      obtain ⟨code, rfl, hvalue, -⟩ := hsource
      rcases hset.set position value with hstays | ⟨rfl, hclear⟩
      · exact .inl hstays
      · exact .inr ⟨rfl, ready, code, value, decoded, hvalue, hclear⟩
    | testAndSet flags position value =>
      obtain ⟨i, b, -, hb, -, rfl⟩ := hsource
      exact .inl (hset.set_withBit hb i)
    | _ => exact .inl hset

theorem evaluate_testAndSet {c : Core} {a : Address} {b : Byte} (hb : c.memory.get? a = some b) (o : BitIndex) :
    c.evaluate (.testAndSet a (UInt8.ofNat o.val)) =
      .ok (.testAndSet (Flags.ofCompare (Byte.bit b o).toUInt16 1) a (Byte.withBit b o true)) := by
  have ho : (UInt8.ofNat o.val).toNat = o.val := UInt8.toNat_ofNat_of_lt' (Nat.lt_trans o.isLt (by decide))
  have hlt : (UInt8.ofNat o.val).toNat < 8 := by rw [ho]; exact o.isLt
  have hindex : (⟨(UInt8.ofNat o.val).toNat, hlt⟩ : BitIndex) = o := Fin.ext ho
  rw [evaluate, dif_pos hlt, hindex, (Memory.read_eq_ok_iff _ _ _).2 hb]
  rfl

theorem ofCompare_bit (b : Bool) : Flags.ofCompare b.toUInt16 1 = ⟨b, !b, false, false⟩ := by cases b <;> decide

end Core

/-! ## One tick -/

namespace Machine

/-- The flags of the slot whose instruction it was, before the devices are served. -/
def flagsAfter (m : Machine) : Flags := (m.executed.core.slots.get m.core.fetchedSlot).flags

/-- The tick is a test-and-set that finds the bit clear. -/
def Acquires (m : Machine) (a : Address) (o : BitIndex) : Prop :=
  m.Executes (.testAndSet a (UInt8.ofNat o.val)) ∧ m.flagsAfter.less = true

/-- The tick puts a byte with the bit clear at the address, by its instruction or by a delivery. -/
def Releases (m : Machine) (a : Address) (o : BitIndex) : Prop :=
  (∃ code value, m.Executes (.store code a) ∧ m.executed.halted = false ∧
    m.core.fetched.byteRegister code = .ok value ∧ Byte.bit value o = false) ∨
  ∃ value, (a, value) ∈ m.deliveries ∧ Byte.bit value o = false

/-- What a test-and-set does to a byte that is `old` before it, up to the service of the devices. -/
structure TestsAndSets (m : Machine) (a : Address) (o : BitIndex) (old : Byte) : Prop where
  found : m.core.memory.get? a = some old
  unfaulted : m.executed.halted = false
  flags : m.flagsAfter = { equal := Byte.bit old o, less := !Byte.bit old o, greater := false, overflow := false }
  byte : ∃ new, m.executed.core.memory.get? a = some new ∧ Byte.bit new o = true ∧
    ∀ i, i ≠ o → Byte.bit new i = Byte.bit old i
  others : ∀ a', a' ≠ a → m.executed.core.memory.get? a' = m.core.memory.get? a'

/-- **A test-and-set of a byte in memory** compares its bit with 1, sets it and touches nothing else. -/
theorem testsAndSets_of_executes {m : Machine} {a : Address} {o : BitIndex}
    (h : m.Executes (.testAndSet a (UInt8.ofNat o.val))) (inRange : a.toNat < m.core.memory.size) :
    ∃ old, m.TestsAndSets a o old := by
  obtain ⟨b, hb⟩ := (Memory.get?_eq_some_iff m.core.memory a).2 inRange
  have hfetched : m.core.fetched.memory.get? a = some b := by rw [Core.fetched_memory, hb]
  have hstep := nextStep_of_executes h (Core.evaluate_testAndSet hfetched o)
  have hexecuted := executed_of_done (congrArg Prod.snd hstep)
  have hcore : m.executed.core = _ := (executed_core m).trans (congrArg Prod.fst hstep)
  have hmemory : m.executed.core.memory = m.core.memory.set a (Byte.withBit b o true) := by
    rw [hcore, ← Core.fetched_memory m.core]
    rfl
  refine ⟨b, hb, ?_, ?_, ⟨Byte.withBit b o true, ?_, ?_, fun i hi => ?_⟩, fun a' ha' => ?_⟩
  · rw [hexecuted]; exact h.running
  · unfold flagsAfter
    rw [hcore, Core.ofCompare_bit]
    have hactive : m.core.fetched.active = m.core.fetchedSlot := by rw [Core.fetched_eq]
    show ((m.core.fetched.slots.update m.core.fetched.active _).get m.core.fetchedSlot).flags = _
    rw [hactive, Slots.get_update_self]
  · rw [hmemory, Memory.get?_set, if_pos ⟨rfl, inRange⟩]
  · rw [Byte.bit_withBit, if_pos rfl]
  · rw [Byte.bit_withBit, if_neg hi]
  · rw [hmemory, Memory.get?_set_of_ne _ ha']

theorem size_tick (m : Machine) : m.tick.core.memory.size = m.core.memory.size := by
  cases h : m.halted with
  | true => rw [tick_of_halted h]
  | false =>
    rw [core_tick m h]
    exact (Memory.size_deliver _ _).trans (Core.size_of_stepped m.stepped)

/-- **A set bit stays set through a tick that does not release it.** -/
theorem bitSet_tick {m : Machine} {a : Address} {o : BitIndex} (hset : m.core.memory.BitSet a o) :
    m.tick.core.memory.BitSet a o ∨ m.Releases a o := by
  cases h : m.halted with
  | true => rw [tick_of_halted h]; exact .inl hset
  | false =>
    rw [core_tick m h]
    rcases Core.bitSet_of_stepped m.stepped hset with hstays | ⟨hdone, ready, code, value, decoded, hvalue, hclear⟩
    · exact (hstays.deliver m.deliveries).imp_right .inr
    · have unfaulted : m.executed.halted = false := by rw [executed_of_done hdone]; exact h
      exact .inr (.inl ⟨code, value, ⟨h, ready, decoded⟩, unfaulted, hvalue, hclear⟩)

theorem not_bitSet_of_acquires {m : Machine} {a : Address} {o : BitIndex} (h : m.Acquires a o)
    (inRange : a.toNat < m.core.memory.size) : ¬ m.core.memory.BitSet a o := by
  obtain ⟨old, hold⟩ := testsAndSets_of_executes h.1 inRange
  rintro ⟨b, hb, hbit⟩
  have hbo : b = old := Option.some.inj (hb.symm.trans hold.found)
  have hless := h.2
  rw [hold.flags, ← hbo, hbit] at hless
  cases hless

theorem bitSet_tick_of_acquires {m : Machine} {a : Address} {o : BitIndex} (h : m.Acquires a o)
    (inRange : a.toNat < m.core.memory.size) : m.tick.core.memory.BitSet a o ∨ m.Releases a o := by
  obtain ⟨old, hold⟩ := testsAndSets_of_executes h.1 inRange
  obtain ⟨new, hnew, hbit, -⟩ := hold.byte
  have hset : m.executed.core.memory.BitSet a o := ⟨new, hnew, hbit⟩
  rw [core_tick m h.1.running]
  exact (hset.deliver m.deliveries).imp_right .inr

/-! ## A run -/

theorem size_runIn (w : Surroundings) (m : Machine) (n : Nat) : (m.runIn w n).core.memory.size = m.core.memory.size :=
  core_runIn_induction (P := fun c => c.memory.size = m.core.memory.size) w rfl (fun m' h => (size_tick m').trans h) n

theorem bitSet_runIn (w : Surroundings) (m : Machine) {a : Address} {o : BitIndex} {j : Nat}
    (hset : (m.runIn w (j + 1)).core.memory.BitSet a o) : ∀ d : Nat,
    (m.runIn w (j + 1 + d)).core.memory.BitSet a o ∨ ∃ t, j < t ∧ t < j + 1 + d ∧ (m.runIn w t).Releases a o
  | 0 => .inl hset
  | d + 1 => by
    rcases bitSet_runIn w m hset d with hd | ⟨t, hjt, htd, hrelease⟩
    · rcases bitSet_tick hd with hnext | hrelease
      · exact .inl hnext
      · exact .inr ⟨j + 1 + d, by omega, by omega, hrelease⟩
    · exact .inr ⟨t, hjt, by omega, hrelease⟩

theorem release_between (w : Surroundings) (m : Machine) {a : Address} {o : BitIndex}
    (inRange : a.toNat < m.core.memory.size) {j k : Nat} (hjk : j < k) (hj : (m.runIn w j).Acquires a o)
    (hk : (m.runIn w k).Acquires a o) : ∃ t, j ≤ t ∧ t < k ∧ (m.runIn w t).Releases a o := by
  have hrange (n : Nat) : a.toNat < (m.runIn w n).core.memory.size := by rw [size_runIn]; exact inRange
  rcases bitSet_tick_of_acquires hj (hrange j) with hset | hrelease
  · have hd : j + 1 + (k - (j + 1)) = k := by omega
    have hrun := bitSet_runIn w m hset (k - (j + 1))
    rw [hd] at hrun
    rcases hrun with hset | ⟨t, hjt, htk, hrelease⟩
    -- tick `k` finds the bit clear, so it cannot have stayed set
    · exact absurd hset (not_bitSet_of_acquires hk (hrange k))
    · exact ⟨t, Nat.le_of_lt hjt, htk, hrelease⟩
  · exact ⟨j, Nat.le_refl j, hjk, hrelease⟩

/-- **A bit of memory is a sound lock.**  Every test-and-set of it tells whether it was set, sets it and touches nothing
else; between two that find it clear somebody releases it; and as long as nobody does, at most one finds it clear. -/
theorem testAndSet_locks (w : Surroundings) (m : Machine) (a : Address) (o : BitIndex)
    (inRange : a.toNat < m.core.memory.size) :
    (∀ n, (m.runIn w n).Executes (.testAndSet a (UInt8.ofNat o.val)) → ∃ old, (m.runIn w n).TestsAndSets a o old) ∧
    (∀ j k, j < k → (m.runIn w j).Acquires a o → (m.runIn w k).Acquires a o →
      ∃ t, j ≤ t ∧ t < k ∧ (m.runIn w t).Releases a o) ∧
    ∀ n, (∀ t, t < n → ¬ (m.runIn w t).Releases a o) → ∀ j k, j < n → k < n →
      (m.runIn w j).Acquires a o → (m.runIn w k).Acquires a o → j = k := by
  refine ⟨fun n h => ?_, fun j k hjk hj hk => release_between w m inRange hjk hj hk, ?_⟩
  · exact testsAndSets_of_executes h (by rw [size_runIn]; exact inRange)
  · intro n hfree j k hjn hkn hj hk
    rcases Nat.lt_trichotomy j k with hjk | rfl | hkj
    · obtain ⟨t, -, htk, hrelease⟩ := release_between w m inRange hjk hj hk
      exact absurd hrelease (hfree t (by omega))
    · rfl
    · obtain ⟨t, -, htj, hrelease⟩ := release_between w m inRange hkj hk hj
      exact absurd hrelease (hfree t (by omega))

/-- A thread that takes a lock, gives it back and takes it again. -/
def relocking : Machine :=
  Machine.new ⟨#[0, 0, 0, 0, 25, 3, 0, 0, 9, 0, 0, 3, 25, 3, 0, 0]⟩ 4 Table.builtIn

theorem relocking_releases : (relocking.runIn Surroundings.quiet 0).Acquires 3 0 ∧
    (relocking.runIn Surroundings.quiet 2).Acquires 3 0 ∧
    ∃ t, 0 ≤ t ∧ t < 2 ∧ (relocking.runIn Surroundings.quiet t).Releases 3 0 := by
  have first : (relocking.runIn Surroundings.quiet 0).Acquires 3 0 := ⟨⟨rfl, ⟨by decide, by decide⟩, rfl⟩, by decide⟩
  have second : (relocking.runIn Surroundings.quiet 2).Acquires 3 0 := ⟨⟨rfl, ⟨by decide, by decide⟩, rfl⟩, by decide⟩
  have lock := testAndSet_locks Surroundings.quiet relocking 3 0 (by decide)
  exact ⟨first, second, lock.2.1 0 2 (by decide) first second⟩

end Machine
end CoopCpu
