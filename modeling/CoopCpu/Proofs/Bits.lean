import CoopCpu.Byte
/-!
# Proofs.Bits — setting and clearing single bits

A byte's bit `i` is bit `7 - i` of the number it stands for (`bit_eq_getLsbD`), so `Byte.withBit` gives the one bit its
new value and leaves the other seven as they are (`bit_withBit`).  For the number, a set bit is an odd quotient
(`bit_eq_decide`) and setting a clear one adds its weight (`toNat_withBit`).
-/
namespace CoopCpu
namespace Byte

theorem toBitVec_mask (i : BitIndex) : (mask i).toBitVec = BitVec.twoPow 8 (7 - i.val) := by revert i; decide

theorem twoPow_ne_zero (i : BitIndex) : BitVec.twoPow 8 (7 - i.val) ≠ 0#8 := by revert i; decide

theorem bit_eq_getLsbD (b : Byte) (i : BitIndex) : bit b i = b.toBitVec.getLsbD (7 - i.val) := by
  have hand : (b &&& mask i).toBitVec =
      if b.toBitVec.getLsbD (7 - i.val) then BitVec.twoPow 8 (7 - i.val) else 0#8 := by
    rw [UInt8.toBitVec_and, toBitVec_mask, BitVec.and_twoPow]
  have hpow : BitVec.twoPow 8 (7 - i.val) ≠ 0#8 := twoPow_ne_zero i
  unfold bit
  cases hbit : b.toBitVec.getLsbD (7 - i.val) with
  | true =>
    rw [hbit, if_pos rfl] at hand
    exact bne_iff_ne.2 fun h => hpow (by rw [← hand, h]; rfl)
  | false =>
    rw [hbit, if_neg Bool.false_ne_true] at hand
    rw [bne_eq_false_iff_eq]
    exact UInt8.toBitVec_inj.1 hand

/-- **One bit changes and seven stay.** -/
theorem bit_withBit (b : Byte) (i j : BitIndex) (value : Bool) :
    bit (withBit b i value) j = if j = i then value else bit b j := by
  have hlt : 7 - j.val < 8 := by omega
  have hmask : (mask i).toBitVec.getLsbD (7 - j.val) = decide (j = i) := by revert i j; decide
  rw [bit_eq_getLsbD, bit_eq_getLsbD]
  unfold withBit
  cases value with
  | true =>
    rw [if_pos rfl, UInt8.toBitVec_or, BitVec.getLsbD_or, hmask]
    by_cases h : j = i
    · rw [if_pos h, decide_eq_true h, Bool.or_true]
    · rw [if_neg h, decide_eq_false h, Bool.or_false]
  | false =>
    rw [if_neg Bool.false_ne_true, UInt8.toBitVec_and, UInt8.toBitVec_not, BitVec.getLsbD_and, BitVec.getLsbD_not, hmask,
      decide_eq_true hlt]
    by_cases h : j = i
    · rw [if_pos h, decide_eq_true h, Bool.not_true, Bool.and_false, Bool.and_false]
    · rw [if_neg h, decide_eq_false h, Bool.not_false, Bool.and_true, Bool.and_true]

theorem eq_of_bit_eq {b b' : Byte} (h : ∀ j, bit b j = bit b' j) : b = b' := by
  refine UInt8.toBitVec_inj.1 (BitVec.eq_of_getLsbD_eq fun k hk => ?_)
  have hj := h ⟨7 - k, by omega⟩
  rw [bit_eq_getLsbD, bit_eq_getLsbD] at hj
  have hk' : 7 - (7 - k) = k := by omega
  simpa only [hk'] using hj

theorem withBit_of_bit {b : Byte} {i : BitIndex} (h : bit b i = true) : withBit b i true = b := by
  refine eq_of_bit_eq fun j => ?_
  rw [bit_withBit]
  by_cases hj : j = i
  · rw [if_pos hj, hj, h]
  · rw [if_neg hj]

/-! ## Bits of numbers -/

theorem bit_eq_decide (b : Byte) (i : BitIndex) : bit b i = decide (b.toNat / Nat.pow 2 (7 - i.val) % 2 = 1) := by
  rw [bit_eq_getLsbD]
  exact Nat.testBit_eq_decide_div_mod_eq

theorem toNat_mask (i : BitIndex) : (mask i).toNat = Nat.pow 2 (7 - i.val) := by revert i; decide

theorem toNat_withBit {b : Byte} {i : BitIndex} (h : bit b i = false) :
    (withBit b i true).toNat = b.toNat + Nat.pow 2 (7 - i.val) := by
  have hand : b.toBitVec &&& (mask i).toBitVec = 0#8 := by
    rw [bit_eq_getLsbD] at h
    rw [toBitVec_mask, BitVec.and_twoPow, if_neg (by rw [h]; exact Bool.false_ne_true)]
  have hadd : (b.toBitVec + (mask i).toBitVec).toNat = b.toNat + (mask i).toNat := BitVec.toNat_add_of_and_eq_zero hand
  have hor : b.toBitVec + (mask i).toBitVec = (withBit b i true).toBitVec := BitVec.add_eq_or_of_and_eq_zero _ _ hand
  rw [← toNat_mask, ← hadd, hor]
  rfl

end Byte
end CoopCpu
