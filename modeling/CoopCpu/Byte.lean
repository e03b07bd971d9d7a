/-!
# Byte — bits of a byte and pairs of bytes

A byte's bits are numbered from the most significant: bit 0 weighs 128 and bit 7 weighs 1.  A 16-bit address is stored
as two bytes, the high byte first; `Byte.pair` joins them and `Address.high`, `Address.low` take them apart again
(`pair_high_low`).
-/
namespace CoopCpu

/-- A memory cell, a register, an immediate operand. -/
abbrev Byte := UInt8

/-- A position in the address space, and a program counter. -/
abbrev Address := UInt16

/-- The number of a bit within its byte. -/
abbrev BitIndex := Fin 8

namespace Byte

/-- The byte in which only bit `i` is set. -/
def mask (i : BitIndex) : Byte := (128 : Byte) >>> UInt8.ofNat i.val

/-- Bit `i` of `b`. -/
def bit (b : Byte) (i : BitIndex) : Bool := b &&& mask i != 0

/-- `b` with bit `i` set to `value`. -/
def withBit (b : Byte) (i : BitIndex) (value : Bool) : Byte :=
  if value then b ||| mask i else b &&& ~~~ mask i

/-- The address whose high byte is `high` and whose low byte is `low`. -/
def pair (high low : Byte) : Address := high.toUInt16 <<< 8 ||| low.toUInt16

end Byte

namespace Address

/-- The byte of an address that is stored first. -/
def high (a : Address) : Byte := (a >>> 8).toUInt8

/-- The byte of an address that is stored second. -/
def low (a : Address) : Byte := a.toUInt8

end Address

/-- **Taking an address apart and joining it again changes nothing.** -/
theorem pair_high_low (a : Address) : Byte.pair (Address.high a) (Address.low a) = a := by
  have h : a.toNat < 65536 := a.toNat_lt
  have or_eq : a.toNat / 256 * 256 ||| a.toNat % 256 = a.toNat := by
    have := Nat.shiftLeft_add_eq_or_of_lt (b := a.toNat % 256) (i := 8) (by omega) (a.toNat / 256)
    simp only [Nat.shiftLeft_eq, Nat.reducePow] at this
    omega
  unfold Byte.pair Address.high Address.low
  apply UInt16.toNat_inj.1
  simp only [UInt16.toNat_or, UInt16.toNat_shiftLeft, UInt8.toNat_toUInt16, UInt16.toNat_toUInt8,
    UInt16.toNat_shiftRight, UInt16.reduceToNat, Nat.reduceMod, Nat.shiftRight_eq_div_pow, Nat.shiftLeft_eq,
    Nat.reducePow]
  rw [show a.toNat / 256 % 256 * 256 % 65536 = a.toNat / 256 * 256 by omega]
  exact or_eq

end CoopCpu
