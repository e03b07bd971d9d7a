import CoopCpu.Memory.BitTable
import CoopCpu.Proofs.Placement
/-!
# Proofs.BitTable — a memory is an array of independent bits

The bits of a memory stand in a table, eight entries for each byte (`Memory.Mirrors`).  An access to the memory gives the
answer that the same access to the table gives, and leaves memory and table alike (`Mirrors.perform`); so it is for any
number of accesses (`accesses_by_bits`).  Writing a bit changes one entry of the table (`bit?_set_withBit`), writing a byte
the eight of that byte (`bit?_set`), and an access past the end none.
-/
namespace CoopCpu

namespace Byte

theorem bit_eq_digit (b : Byte) (o : BitIndex) : bit b o = BitTable.digit b o.val := bit_eq_getLsbD b o

/-- **A number is the sum of the weights of its binary digits**, if it has no more than `k` of them. -/
theorem eq_sum_testBit : ∀ {k n : Nat}, n < 2 ^ k →
    n = ∑ o : Fin k, 2 ^ (k - 1 - o.val) * (n.testBit (k - 1 - o.val)).toNat
  | 0, n, small => by
    obtain rfl : n = 0 := by simpa using small
    rfl
  | k + 1, n, small => by
    have half : n / 2 < 2 ^ k := by
      rw [Nat.pow_succ] at small
      omega
    have last : (n.testBit 0).toNat = n % 2 := by
      rw [Nat.testBit_zero]
      rcases Nat.mod_two_eq_zero_or_one n with h | h <;> rw [h] <;> rfl
    have others (o : Fin k) : 2 ^ (k - o.val) * (n.testBit (k - o.val)).toNat =
        2 * (2 ^ (k - 1 - o.val) * ((n / 2).testBit (k - 1 - o.val)).toNat) := by
      obtain ⟨j, hj⟩ : ∃ j, k - o.val = j + 1 := ⟨k - 1 - o.val, by omega⟩
      have hj' : k - 1 - o.val = j := by omega
      rw [hj, hj', Nat.testBit_succ, Nat.pow_succ, Nat.mul_comm (2 ^ j) 2, Nat.mul_assoc]
    rw [Fin.sum_univ_castSucc]
    simp only [Nat.add_sub_cancel, Fin.val_castSucc, Fin.val_last, Nat.sub_self, others]
    rw [← Finset.mul_sum, ← eq_sum_testBit half, last]
    omega

/-- **A byte is the sum of the weights of its bits.** -/
theorem toNat_eq_sum (b : Byte) : b.toNat = ∑ o : BitIndex, 2 ^ (7 - o.val) * (bit b o).toNat := by
  simp only [bit_eq_digit]
  exact eq_sum_testBit b.toNat_lt

end Byte

namespace Memory

variable {n : Nat} {m : Memory} {t : BitTable n} {a : Address}

/-! ## The bits of a memory -/

theorem bit?_of_byte {b : Byte} {p : Nat} (h : m.bytes[p]? = some b) (o : BitIndex) :
    m.bit? (8 * p + o.val) = some (Byte.bit b o) := by
  have byte : (8 * p + o.val) / 8 = p := by omega
  have place : (8 * p + o.val) % 8 = o.val := by omega
  unfold bit?
  simp only [byte, place, h]
  rfl

theorem bit?_of_place {b : Byte} {i : Nat} (h : m.bytes[i / 8]? = some b) :
    m.bit? i = some (BitTable.digit b (i % 8)) := by
  unfold bit?
  rw [h, Option.map_some, Byte.bit_eq_digit]

/-- **A byte that is written changes its own eight bits.** -/
theorem bit?_set (within : a.toNat < m.size) (value : Byte) (i : Nat) : (m.set a value).bit? i =
    if i / 8 = a.toNat then some (BitTable.digit value (i % 8)) else m.bit? i := by
  by_cases h : i / 8 = a.toNat
  · have byte : (m.set a value).bytes[i / 8]? = some value := by rw [bytes_set, if_pos ⟨h, within⟩]
    rw [if_pos h, bit?_of_place byte]
  · unfold bit?
    rw [if_neg h, bytes_set, if_neg fun hc => h hc.1]

/-- **A bit that is written changes alone.** -/
theorem bit?_set_withBit {b : Byte} (h : m.get? a = some b) (o : BitIndex) (value : Bool) (i : Nat) :
    (m.set a (Byte.withBit b o value)).bit? i = if i = 8 * a.toNat + o.val then some value else m.bit? i := by
  have within : a.toNat < m.size := (get?_eq_some_iff m a).1 ⟨b, h⟩
  rw [bit?_set within]
  by_cases byte : i / 8 = a.toNat
  · have place : i = 8 * a.toNat + o.val ↔ (⟨i % 8, Nat.mod_lt i (by decide)⟩ : BitIndex) = o := by
      rw [Fin.ext_iff]
      show _ ↔ i % 8 = o.val
      omega
    have hb : m.bytes[i / 8]? = some b := byte ▸ h
    rw [if_pos byte, ← Byte.bit_eq_digit _ ⟨i % 8, Nat.mod_lt i (by decide)⟩, Byte.bit_withBit, bit?_of_place hb,
      ← Byte.bit_eq_digit _ ⟨i % 8, Nat.mod_lt i (by decide)⟩]
    by_cases same : i = 8 * a.toNat + o.val
    · rw [if_pos same, if_pos (place.1 same)]
    · rw [if_neg same, if_neg fun hc => same (place.2 hc)]
  · rw [if_neg byte, if_neg (by omega)]

/-- **An image that is placed changes the bits of its bytes.** -/
theorem bit?_of_placed {m' : Memory} {start : Address} {image : Array Byte} (placed : m.Placed start image m') (i : Nat) :
    m'.bit? i = if start.toNat ≤ i / 8 then
      image[i / 8 - start.toNat]?.elim (m.bit? i) fun b => some (BitTable.digit b (i % 8)) else m.bit? i := by
  have outside (h : i / 8 < start.toNat ∨ start.toNat + image.size ≤ i / 8) : m'.bit? i = m.bit? i := by
    unfold bit?
    rw [placed.outside _ h]
  by_cases below : i / 8 < start.toNat
  · rw [if_neg (Nat.not_le.2 below), outside (.inl below)]
  · rw [if_pos (Nat.le_of_not_lt below)]
    cases h : image[i / 8 - start.toNat]? with
    | none => exact outside (.inr (by have := Array.getElem?_eq_none_iff.1 h; omega))
    | some b =>
      have within : i / 8 - start.toNat < image.size := (Array.getElem?_eq_some_iff.1 h).1
      refine bit?_of_place ?_
      rw [← h, ← placed.inside _ within, Nat.add_sub_cancel' (by omega)]

/-! ## Memory and table -/

theorem mirrors_bits (m : Memory) : m.Mirrors m.bits := by
  refine ⟨rfl, fun i => ?_⟩
  have within : i.val / 8 < m.bytes.size := by
    have := i.isLt
    unfold size at this
    omega
  unfold bits
  rw [bit?_of_place (Array.getElem?_eq_getElem within)]
  rfl

namespace Mirrors

theorem byte (h : m.Mirrors t) (p : Fin n) :
    ∃ b, m.bytes[p.val]? = some b ∧ ∀ o, Byte.bit b o = t (BitTable.entry p o) := by
  have within : p.val < m.bytes.size := Nat.lt_of_lt_of_eq p.isLt h.size.symm
  refine ⟨m.bytes[p.val], Array.getElem?_eq_getElem within, fun o => ?_⟩
  have bit := h.bit (BitTable.entry p o)
  exact Option.some.inj ((bit?_of_byte (Array.getElem?_eq_getElem within) o).symm.trans bit)

/-- **The table tells every byte.** -/
theorem toNat_eq_value (h : m.Mirrors t) {p : Fin n} {b : Byte} (hb : m.bytes[p.val]? = some b) :
    b.toNat = t.value p := by
  obtain ⟨b', hb', bits⟩ := h.byte p
  obtain rfl : b = b' := Option.some.inj (hb.symm.trans hb')
  rw [Byte.toNat_eq_sum]
  simp only [bits]
  rfl

end Mirrors

/-! ## Accesses -/

/-- **An access past the end is refused** and changes nothing. -/
theorem perform_of_beyond (beyond : m.size ≤ a.toNat) {access : Access} (single : access.address? = some a) :
    m.perform access = (.error (.fault (.memoryOutOfBounds a.toUInt64)), m) := by
  have unread : m.read a = .error (outOfBounds a) := read_of_le beyond
  cases access with
  | read a' =>
    cases single
    rw [perform, unread]
    rfl
  | readBit a' o =>
    cases single
    rw [perform, readBit_of_read_error unread]
    rfl
  | write a' value =>
    cases single
    rw [perform, write_of_le beyond]
    rfl
  | writeBit a' o value =>
    cases single
    rw [perform, writeBit, unread]
    rfl
  | load start image => cases single

theorem perform_write (within : a.toNat < m.size) (value : Byte) :
    m.perform (.write a value) = (.ok .done, m.set a value) := by
  rw [perform, write_of_lt within]
  rfl

theorem perform_writeBit {b : Byte} (h : m.get? a = some b) (o : BitIndex) (value : Bool) :
    m.perform (.writeBit a o value) = (.ok .done, m.set a (Byte.withBit b o value)) := by
  rw [perform, writeBit_of_read ((read_eq_ok_iff m a b).2 h)]
  rfl

end Memory

theorem BitTable.perform_of_beyond {n : Nat} (t : BitTable n) {a : Address} (beyond : n ≤ a.toNat) {access : Memory.Access}
    (single : access.address? = some a) :
    t.perform access = (.error (.fault (.memoryOutOfBounds a.toUInt64)), t) := by
  have none (act : Fin n → Except Memory.Refusal Memory.Answer × BitTable n) :
      t.atByte a act = (.error (.fault (.memoryOutOfBounds a.toUInt64)), t) := dif_neg (Nat.not_lt.2 beyond)
  cases access with
  | load start image => cases single
  | _ =>
    cases single
    rw [perform, none]

namespace Memory

variable {n : Nat} {m : Memory} {t : BitTable n}

/-- An access gives the answer that the same access to the table gives, and leaves memory and table alike. -/
def AlikeAfter (m : Memory) (t : BitTable n) (access : Access) : Prop :=
  (m.perform access).1 = (t.perform access).1 ∧ (m.perform access).2.Mirrors (t.perform access).2

theorem Mirrors.perform_beyond (h : m.Mirrors t) {a : Address} (beyond : n ≤ a.toNat) {access : Access}
    (single : access.address? = some a) : m.AlikeAfter t access := by
  unfold AlikeAfter
  rw [m.perform_of_beyond (h.size ▸ beyond) single, t.perform_of_beyond beyond single]
  exact ⟨rfl, h⟩

theorem Mirrors.perform_within (h : m.Mirrors t) {a : Address} (within : a.toNat < n) {access : Access}
    (single : access.address? = some a) : m.AlikeAfter t access := by
  obtain ⟨b, hb, bits⟩ := h.byte ⟨a.toNat, within⟩
  have here (act : Fin n → Except Refusal Answer × BitTable n) : t.atByte a act = act ⟨a.toNat, within⟩ := dif_pos within
  have hread : m.read a = .ok b := (read_eq_ok_iff m a b).2 hb
  unfold AlikeAfter
  cases access with
  | read a' =>
    cases single
    rw [Memory.perform, BitTable.perform, here, hread, ← h.toNat_eq_value hb]
    exact ⟨rfl, h⟩
  | readBit a' o =>
    cases single
    rw [Memory.perform, BitTable.perform, here, readBit_of_read hread, bits o]
    exact ⟨rfl, h⟩
  | write a' value =>
    cases single
    rw [m.perform_write (h.size ▸ within), BitTable.perform, here]
    refine ⟨rfl, (size_set m a value).trans h.size, fun i => ?_⟩
    show (m.set a value).bit? i = some (if i.val / 8 = a.toNat then BitTable.digit value (i.val % 8) else t i)
    rw [bit?_set (h.size ▸ within), h.bit i, apply_ite some]
  | writeBit a' o value =>
    cases single
    rw [m.perform_writeBit hb, BitTable.perform, here]
    refine ⟨rfl, (size_set m a _).trans h.size, fun i => ?_⟩
    show _ = some (Function.update t (BitTable.entry ⟨a.toNat, within⟩ o) value i)
    rw [bit?_set_withBit hb, h.bit i, Function.update_apply, apply_ite some]
    simp only [Fin.ext_iff, BitTable.entry]
  | load start image => cases single

theorem Mirrors.load (h : m.Mirrors t) {start : Address} {image : Array Byte} (fits : start.toNat + image.size ≤ n) :
    m.AlikeAfter t (.load start image) := by
  obtain ⟨m', hload, placed⟩ := load_of_fits (h.size ▸ fits)
  unfold AlikeAfter
  rw [Memory.perform, hload]
  refine ⟨rfl, placed.size.trans h.size, fun i => ?_⟩
  show m'.bit? i = some (t.setBytes start.toNat image i)
  rw [bit?_of_placed placed, h.bit i]
  unfold BitTable.setBytes
  split
  · cases image[i.val / 8 - start.toNat]? <;> rfl
  · rfl

/-- **One access does to a memory what it does to the table.** -/
theorem Mirrors.perform (h : m.Mirrors t) (access : Access) (fits : access.Fits n) : m.AlikeAfter t access := by
  cases hsingle : access.address? with
  | some a =>
    by_cases within : a.toNat < n
    · exact h.perform_within within hsingle
    · exact h.perform_beyond (Nat.le_of_not_lt within) hsingle
  | none =>
    cases access with
    | load start image => exact h.load fits
    | _ => cases hsingle

/-- **So do any number of accesses.** -/
theorem Mirrors.performAll (h : m.Mirrors t) (accesses : List Access) (fits : ∀ access ∈ accesses, access.Fits n) :
    (Access.performAll Memory.perform m accesses).1 = (Access.performAll BitTable.perform t accesses).1 ∧
    (Access.performAll Memory.perform m accesses).2.Mirrors (Access.performAll BitTable.perform t accesses).2 := by
  induction accesses generalizing m t with
  | nil => exact ⟨rfl, h⟩
  | cons access rest ih =>
    obtain ⟨answer, left⟩ := h.perform access (fits access List.mem_cons_self)
    obtain ⟨answers, last⟩ := ih left fun later hlater => fits later (List.mem_cons_of_mem access hlater)
    exact ⟨congrArg₂ List.cons answer answers, last⟩

/-- **A memory is an array of independent bits.** -/
theorem accesses_by_bits (m : Memory) (accesses : List Access) (fits : ∀ access ∈ accesses, access.Fits m.size) :
    let m' := (Access.performAll perform m accesses).2
    (Access.performAll perform m accesses).1 = (Access.performAll BitTable.perform m.bits accesses).1 ∧
    m'.Mirrors (Access.performAll BitTable.perform m.bits accesses).2 ∧
    ∀ a : Address,
      (a.toNat < m.size →
        (∀ o value i, (m'.perform (.writeBit a o value)).2.bit? i =
          if i = 8 * a.toNat + o.val then some value else m'.bit? i) ∧
        ∀ value i, (m'.perform (.write a value)).2.bit? i =
          if i / 8 = a.toNat then some (BitTable.digit value (i % 8)) else m'.bit? i) ∧
      (m.size ≤ a.toNat → ∀ access : Access, access.address? = some a →
        m'.perform access = (.error (.fault (.memoryOutOfBounds a.toUInt64)), m')) := by
  intro m'
  obtain ⟨answers, mirrors⟩ := m.mirrors_bits.performAll accesses fits
  refine ⟨answers, mirrors, fun a => ⟨fun within => ⟨fun o value i => ?_, fun value i => ?_⟩, fun beyond access => ?_⟩⟩
  · obtain ⟨b, hb⟩ := (get?_eq_some_iff m' a).2 (mirrors.size.symm ▸ within)
    rw [perform_writeBit hb]
    exact bit?_set_withBit hb o value i
  · have within' : a.toNat < m'.size := mirrors.size.symm ▸ within
    rw [perform_write within']
    exact bit?_set within' value i
  · exact m'.perform_of_beyond (mirrors.size ▸ beyond)

/-- Bits and bytes of two bytes, read and written, an image over the second one, and one bit past the end. -/
def mixedAccesses : List Access :=
  [.writeBit 0 7 true, .readBit 0 7, .read 0, .load 1 #[0xF0], .readBit 1 3, .writeBit 1 0 false, .read 1, .write 1 0x0F,
    .readBit 1 3, .readBit 2 0]

theorem mixedAccesses_by_bits : (∀ access ∈ mixedAccesses, access.Fits (size ⟨#[0x80, 0x01]⟩)) ∧
    (Access.performAll perform ⟨#[0x80, 0x01]⟩ mixedAccesses).1 =
      [.ok .done, .ok (.bit true), .ok (.byte 0x81), .ok .done, .ok (.bit true), .ok .done, .ok (.byte 0x70), .ok .done,
        .ok (.bit false), .error (.fault (.memoryOutOfBounds 2))] := by
  have fits : ∀ access ∈ mixedAccesses, access.Fits (size ⟨#[0x80, 0x01]⟩) := by decide
  obtain ⟨answers, -⟩ := accesses_by_bits ⟨#[0x80, 0x01]⟩ mixedAccesses fits
  refine ⟨fits, answers.trans ?_⟩
  decide

end Memory
end CoopCpu
