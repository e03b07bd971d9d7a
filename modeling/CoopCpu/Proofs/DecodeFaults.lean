import CoopCpu.Proofs.Encoding
import CoopCpu.Proofs.Sources
/-!
# Proofs.DecodeFaults — where there is no instruction to decode

Bytes are read from the left, so a reading that is cut off has the fault of the first byte that is missing, and that is the
end of memory wherever the reading began (`Memory.ReadsTo`, `Layout.readsTo`).  Decoding fails for that reason or for an
opcode that the table does not have, and for no other (`Table.decode_faults_exactly`).
-/
namespace CoopCpu

namespace Memory

/-- The bytes that can be read: those that have an address. -/
def reach (m : Memory) : Nat := min m.size addressable

theorem toNat_ofNat_reach (m : Memory) : (UInt64.ofNat m.reach).toNat = m.reach :=
  UInt64.toNat_ofNat_of_lt' (Nat.lt_of_le_of_lt (Nat.min_le_right _ _) (by decide))

/-- A reading of the bytes up to a position fails exactly if one of them is missing, with the first that is. -/
def ReadsTo {α : Type} (m : Memory) (last : Nat) (x : Except Fault α) : Prop :=
  faultOf? x = if last ≤ m.reach then none else some (.memoryOutOfBounds (UInt64.ofNat m.reach))

variable {α β : Type} {m : Memory} {last last' : Nat} {x : Except Fault α}

theorem ReadsTo.ok (h : last ≤ m.reach) (a : α) : m.ReadsTo last (.ok a : Except Fault α) := (if_pos h).symm

/-- **Reading on**: what comes later counts only if nothing was missing before. -/
theorem ReadsTo.bind {f : α → Except Fault β} (first : m.ReadsTo last x) (further : last ≤ last')
    (rest : ∀ a, last ≤ m.reach → m.ReadsTo last' (f a)) : m.ReadsTo last' (x >>= f) := by
  unfold ReadsTo at first
  by_cases whole : last ≤ m.reach
  · rw [if_pos whole, faultOf?_eq_none_iff] at first
    obtain ⟨a, rfl⟩ := first
    exact rest a whole
  · rw [if_neg whole, faultOf?_eq_some_iff] at first
    subst first
    exact (if_neg (by omega)).symm

theorem byteAt_of_lt_reach {position : Nat} (h : position < m.reach) : ∃ b, m.byteAt position = .ok b := by
  obtain ⟨hsize, haddress⟩ := Nat.lt_min.1 h
  exact ⟨m.bytes[position], (m.byteAt_eq_ok_iff _ _).2 ⟨haddress, Array.getElem?_eq_getElem hsize⟩⟩

/-- **The first byte that cannot be read is the one at the end.** -/
theorem byteAt_reach (m : Memory) : m.byteAt m.reach = .error (.memoryOutOfBounds (UInt64.ofNat m.reach)) := by
  unfold byteAt
  by_cases h : m.reach < addressable
  · have hnat : (UInt16.ofNat m.reach).toNat = m.reach := UInt16.toNat_ofNat_of_lt' h
    have hend : m.size ≤ (UInt16.ofNat m.reach).toNat := by unfold reach at h hnat ⊢; omega
    rw [if_pos h, read_of_le hend, outOfBounds, ← UInt64.ofNat_uInt16ToNat, hnat]
  · rw [if_neg h]

theorem readsTo_byteAt {position : Nat} (h : position ≤ m.reach) : m.ReadsTo (position + 1) (m.byteAt position) := by
  unfold ReadsTo
  by_cases inside : position + 1 ≤ m.reach
  · rw [if_pos inside]
    exact faultOf?_eq_none_iff.2 (byteAt_of_lt_reach inside)
  · obtain rfl : position = m.reach := by omega
    rw [if_neg inside]
    exact faultOf?_eq_some_iff.2 m.byteAt_reach

end Memory

theorem Width.readsTo {m : Memory} {position : Nat} (h : position ≤ m.reach) :
    ∀ w : Width, m.ReadsTo (position + w.size) (w.readAt m position)
  | .byte => (Memory.readsTo_byteAt h).bind (Nat.le_refl _) fun _ whole => .ok whole _
  | .word => (Memory.readsTo_byteAt h).bind (Nat.le_succ _) fun _ inside =>
    (Memory.readsTo_byteAt inside).bind (Nat.le_refl _) fun _ whole => .ok whole _

theorem Layout.readsTo {m : Memory} : ∀ (l : Layout) {position : Nat}, position ≤ m.reach →
    m.ReadsTo (position + l.size) (Layout.readAt m position l)
  | [], _, h => .ok h _
  | w :: rest, position, h => by
    have split : position + size (w :: rest) = position + w.size + size rest := (Nat.add_assoc _ _ _).symm
    rw [split]
    exact (w.readsTo h).bind (Nat.le_add_right _ _) fun _ inside =>
      (readsTo rest inside).bind (Nat.le_refl _) fun _ whole => .ok whole _

namespace Table

variable {t : Table} {m : Memory} {a : Address} {opcode : Byte} {e : Entry}

theorem lt_reach_of_read (h : m.read a = .ok opcode) : a.toNat < m.reach :=
  Nat.lt_min.2 ⟨Memory.lt_size_of_read h, a.toNat_lt⟩

theorem decode_of_le (h : m.size ≤ a.toNat) : t.decode m a = .error (.memoryOutOfBounds a.toUInt64) := by
  unfold decode
  rw [Memory.read_of_le h]
  rfl

theorem entry?_eq_none_iff {code : Byte} : t.entry? code = none ↔ ∀ e ∈ t.entries, e.code ≠ code := by
  have missing : t.entry? code = none ↔ ∀ e ∈ t.entries, ¬ (e.code == code) = true := List.find?_eq_none
  simpa using missing

theorem faultOf?_decode (hread : m.read a = .ok opcode) (hentry : t.entry? opcode = some e) :
    faultOf? (t.decode m a) =
      if a.toNat + e.layout.size < m.reach then none else some (.memoryOutOfBounds (UInt64.ofNat m.reach)) := by
  have operands := e.layout.readsTo (lt_reach_of_read hread)
  have extent : a.toNat + 1 + e.layout.size ≤ m.reach ↔ a.toNat + e.layout.size < m.reach := by omega
  rw [decode_of_entry hread hentry, faultOf?_map]
  simpa only [Memory.ReadsTo, Nat.succ_eq_add_one, extent] using operands

/-- **Why decoding fails**: the opcode is missing, or the table does not have it, or the operands are cut off. -/
theorem decode_eq_error_iff {fault : Fault} : t.decode m a = .error fault ↔
    (m.size ≤ a.toNat ∧ fault = .memoryOutOfBounds a.toUInt64) ∨
    (∃ opcode, m.get? a = some opcode ∧ t.entry? opcode = none ∧ fault = .unknownOpcode opcode a) ∨
    ∃ opcode e, m.get? a = some opcode ∧ t.entry? opcode = some e ∧ m.reach ≤ a.toNat + e.layout.size ∧
      fault = .memoryOutOfBounds (UInt64.ofNat m.reach) := by
  by_cases missing : m.size ≤ a.toNat
  · have hget : m.get? a = none := Array.getElem?_eq_none missing
    rw [decode_of_le missing]
    simp [missing, hget, eq_comm]
  · obtain ⟨opcode, hget⟩ := (m.get?_eq_some_iff a).2 (Nat.lt_of_not_le missing)
    have hread := (m.read_eq_ok_iff a opcode).2 hget
    cases hentry : t.entry? opcode with
    | none =>
      rw [decode_of_unknown hread hentry]
      simp [missing, hget, hentry, eq_comm]
    | some e =>
      rw [← faultOf?_eq_some_iff, faultOf?_decode hread hentry]
      simp [missing, hget, hentry, eq_comm]

theorem decode_missing_iff : t.decode m a = .error (.memoryOutOfBounds a.toUInt64) ↔ m.size ≤ a.toNat := by
  refine ⟨fun h => ?_, decode_of_le⟩
  rcases decode_eq_error_iff.1 h with ⟨missing, -⟩ | ⟨_, _, _, hfault⟩ | ⟨_, _, _, _, _, hfault⟩
  · exact missing
  · cases hfault
  · injection hfault with hposition
    have atEnd : a.toNat = m.reach := by rw [← UInt16.toNat_toUInt64, hposition, m.toNat_ofNat_reach]
    have haddress : a.toNat < Memory.addressable := a.toNat_lt
    unfold Memory.reach at atEnd
    omega

theorem decode_unknown_iff : t.decode m a = .error (.unknownOpcode opcode a) ↔
    m.get? a = some opcode ∧ ∀ e ∈ t.entries, e.code ≠ opcode := by
  constructor
  · intro h
    rcases decode_eq_error_iff.1 h with ⟨_, hfault⟩ | ⟨opcode', hget, unknown, hfault⟩ | ⟨_, _, _, _, _, hfault⟩
    · cases hfault
    · cases hfault
      exact ⟨hget, entry?_eq_none_iff.1 unknown⟩
    · cases hfault
  · rintro ⟨hget, unknown⟩
    exact decode_of_unknown ((m.read_eq_ok_iff a opcode).2 hget) (entry?_eq_none_iff.2 unknown)

theorem decode_cut_iff (he : e ∈ t.entries) (hget : m.get? a = some e.code) {fault : Fault} :
    t.decode m a = .error fault ↔
      m.reach ≤ a.toNat + e.layout.size ∧ fault = .memoryOutOfBounds (UInt64.ofNat m.reach) := by
  rw [← faultOf?_eq_some_iff, faultOf?_decode ((m.read_eq_ok_iff a e.code).2 hget) (entry?_iff.2 ⟨he, rfl⟩)]
  by_cases whole : a.toNat + e.layout.size < m.reach
  · simp [whole, Nat.not_le.2 whole]
  · simp [whole, Nat.le_of_not_lt whole, eq_comm]

theorem decode_whole_iff (he : e ∈ t.entries) (hget : m.get? a = some e.code) :
    (∃ i, t.decode m a = .ok i) ↔ a.toNat + e.layout.size < m.reach := by
  rw [← faultOf?_eq_none_iff, faultOf?_decode ((m.read_eq_ok_iff a e.code).2 hget) (entry?_iff.2 ⟨he, rfl⟩)]
  by_cases whole : a.toNat + e.layout.size < m.reach <;> simp [whole]

/-- **When there is no instruction to decode**: the byte at the address is missing, or it is the code of no entry, or one of
the operand bytes is missing.  Of the missing bytes the first is reported, which in a full memory is the one after the last
address; what stands below the address does not matter. -/
theorem decode_faults_exactly (t : Table) {m : Memory} (small : m.size ≤ Memory.addressable) (a : Address) :
    (t.decode m a = .error (.memoryOutOfBounds a.toUInt64) ↔ m.size ≤ a.toNat) ∧
    (∀ opcode, t.decode m a = .error (.unknownOpcode opcode a) ↔
      m.get? a = some opcode ∧ ∀ e ∈ t.entries, e.code ≠ opcode) ∧
    (∀ e ∈ t.entries, m.get? a = some e.code →
      (∀ fault, t.decode m a = .error fault ↔ m.size ≤ a.toNat + e.layout.size ∧
        ∃ position : UInt64, position.toNat = m.size ∧ fault = .memoryOutOfBounds position) ∧
      ((∃ i, t.decode m a = .ok i) ↔ a.toNat + e.layout.size < m.size)) ∧
    ∀ m' : Memory, (∀ p, a.toNat ≤ p → m'.bytes[p]? = m.bytes[p]?) → t.decode m' a = t.decode m a := by
  have hreach : m.reach = m.size := Nat.min_eq_left small
  have hend := m.toNat_ofNat_reach
  refine ⟨decode_missing_iff, fun opcode => decode_unknown_iff, fun e he hget => ⟨fun fault => ?_, ?_⟩, fun m' h => ?_⟩
  · rw [decode_cut_iff he hget, ← hreach]
    refine and_congr_right fun _ => ⟨fun h => ⟨_, hend, h⟩, ?_⟩
    rintro ⟨position, hposition, rfl⟩
    rw [← hposition, UInt64.ofNat_toNat]
  · rw [decode_whole_iff he hget, hreach]
  · exact decode_congr fun k _ => h _ (Nat.le_add_right _ _)

/-- A memory with nothing but jumps, and no more bytes than there are addresses. -/
def full : Memory := ⟨Array.replicate Memory.addressable 4⟩

theorem full_decode_faults : full.size ≤ Memory.addressable ∧ full.get? 0xFFFE = some 4 ∧
    builtIn.decode full 0xFFFE = .error (.memoryOutOfBounds 65536) := by
  have small : full.size ≤ Memory.addressable := Nat.le_of_eq Array.size_replicate
  have jump : (⟨4, .jump, [.word], by decide⟩ : Entry) ∈ builtIn.entries := by decide
  have hget : full.get? 0xFFFE = some 4 := by
    unfold full Memory.get?
    rw [Array.getElem?_replicate]
    rfl
  have hsize : full.size = 65536 := Array.size_replicate
  obtain ⟨-, -, cut, -⟩ := decode_faults_exactly builtIn small 0xFFFE
  refine ⟨small, hget, ((cut _ jump hget).1 _).2 ⟨?_, 65536, hsize.symm, rfl⟩⟩
  rw [hsize]
  decide

end Table
end CoopCpu
