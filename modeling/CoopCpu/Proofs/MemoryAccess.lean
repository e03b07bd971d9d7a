import CoopCpu.Proofs.Bits
import CoopCpu.Memory
/-!
# Proofs.MemoryAccess — reading and writing bytes

An access succeeds exactly below the size of the memory, and a byte that can be read can be written (`write_of_read`,
`writeBit_of_read`).  A write changes the byte at its own address and no other (`get?_set`).
-/
namespace CoopCpu
namespace Memory

theorem get?_eq_some_iff (m : Memory) (a : Address) : (∃ b, m.get? a = some b) ↔ a.toNat < m.size := by
  constructor
  · rintro ⟨b, hb⟩
    exact (Array.getElem?_eq_some_iff.1 hb).1
  · intro h
    exact ⟨m.bytes[a.toNat], Array.getElem?_eq_getElem h⟩

theorem size_set (m : Memory) (a : Address) (value : Byte) : (m.set a value).size = m.size := by
  unfold set size
  rw [Array.size_setIfInBounds]

theorem bytes_set (m : Memory) (a : Address) (value : Byte) (p : Nat) : (m.set a value).bytes[p]? =
    if p = a.toNat ∧ a.toNat < m.size then some value else m.bytes[p]? := by
  unfold set size
  rw [Array.getElem?_setIfInBounds]
  by_cases h : a.toNat = p
  · by_cases within : a.toNat < m.bytes.size
    · rw [if_pos h, if_pos within, if_pos ⟨h.symm, within⟩]
    · rw [if_pos h, if_neg within, if_neg fun hc => within hc.2, Array.getElem?_eq_none (by omega)]
  · rw [if_neg h, if_neg fun hc => h hc.1.symm]

theorem get?_set (m : Memory) (a a' : Address) (value : Byte) :
    (m.set a value).get? a' = if a' = a ∧ a.toNat < m.size then some value else m.get? a' := by
  unfold get?
  rw [bytes_set]
  simp only [UInt16.toNat_inj]

theorem get?_set_of_ne (m : Memory) {a a' : Address} (h : a' ≠ a) (value : Byte) :
    (m.set a value).get? a' = m.get? a' := by
  rw [get?_set, if_neg fun hc => h hc.1]

theorem set_of_get? {m : Memory} {a : Address} {b : Byte} (h : m.get? a = some b) : m.set a b = m := by
  obtain ⟨hlt, hb⟩ := Array.getElem?_eq_some_iff.1 h
  unfold set
  rw [Array.setIfInBounds_def, dif_pos hlt, ← hb, Array.set_getElem_self]

theorem read_eq_ok_iff (m : Memory) (a : Address) (b : Byte) : m.read a = .ok b ↔ m.get? a = some b := by
  unfold read
  cases m.get? a with
  | some x => simp only [Except.ok.injEq, Option.some.injEq]
  | none => simp only [reduceCtorEq]

theorem read_eq_error {m : Memory} {a : Address} {fault : Fault} (h : m.read a = .error fault) :
    fault = outOfBounds a := by
  unfold read at h
  cases hget : m.get? a with
  | some b => rw [hget] at h; cases h
  | none => rw [hget] at h; exact (Except.error.inj h).symm

theorem lt_size_of_read {m : Memory} {a : Address} {b : Byte} (h : m.read a = .ok b) : a.toNat < m.size :=
  (get?_eq_some_iff m a).1 ⟨b, (read_eq_ok_iff m a b).1 h⟩

theorem read_of_le {m : Memory} {a : Address} (h : m.size ≤ a.toNat) : m.read a = .error (outOfBounds a) := by
  unfold read get?
  rw [Array.getElem?_eq_none h]

theorem write_of_lt {m : Memory} {a : Address} (h : a.toNat < m.size) (value : Byte) :
    m.write a value = .ok (m.set a value) := by
  unfold write set?
  rw [if_pos h]

theorem write_of_le {m : Memory} {a : Address} (h : m.size ≤ a.toNat) (value : Byte) :
    m.write a value = .error (outOfBounds a) := by
  unfold write set?
  rw [if_neg (Nat.not_lt.2 h)]

/-- **What can be read can be written.** -/
theorem write_of_read {m : Memory} {a : Address} {b : Byte} (h : m.read a = .ok b) (value : Byte) :
    m.write a value = .ok (m.set a value) :=
  write_of_lt (lt_size_of_read h) value

theorem write_of_read_error {m : Memory} {a : Address} {fault : Fault} (h : m.read a = .error fault) (value : Byte) :
    m.write a value = .error fault := by
  have hlt : ¬ a.toNat < m.size := by
    rw [← get?_eq_some_iff]
    rintro ⟨b, hb⟩
    rw [(read_eq_ok_iff m a b).2 hb] at h
    cases h
  unfold write set?
  rw [if_neg hlt, read_eq_error h]

theorem readBit_of_read {m : Memory} {a : Address} {b : Byte} (h : m.read a = .ok b) (i : BitIndex) :
    m.readBit a i = .ok (Byte.bit b i) := by
  unfold readBit
  rw [h]
  rfl

theorem readBit_of_read_error {m : Memory} {a : Address} {fault : Fault} (h : m.read a = .error fault)
    (i : BitIndex) : m.readBit a i = .error fault := by
  unfold readBit
  rw [h]
  rfl

theorem writeBit_of_read {m : Memory} {a : Address} {b : Byte} (h : m.read a = .ok b) (i : BitIndex) (value : Bool) :
    m.writeBit a i value = .ok (m.set a (Byte.withBit b i value)) := by
  unfold writeBit
  rw [h]
  exact write_of_read h _

end Memory
end CoopCpu
