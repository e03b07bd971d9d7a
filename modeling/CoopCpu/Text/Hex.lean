import CoopCpu.Byte
/-!
# Text.Hex — hexadecimal text

`fixed` writes the last digits of a number, as many as it is asked for; `Hex.number` writes a number after `0x` with
upper-case digits and at least a given count of them, so that a byte always shows two digits and an address four.
-/
namespace CoopCpu
namespace Hex

/-- The digits from `0` to `9` and then from `A` to `F`. -/
def upperDigit (d : Nat) : Char := if d < 10 then Char.ofNat (48 + d) else Char.ofNat (55 + d)

/-- The digits from `0` to `9` and then from `a` to `f`. -/
def lowerDigit (d : Nat) : Char := if d < 10 then Char.ofNat (48 + d) else Char.ofNat (87 + d)

/-- The last `count` hexadecimal digits of `n`, the most significant first. -/
def fixed (digit : Nat → Char) : (count : Nat) → (n : Nat) → List Char
  | 0, _ => []
  | count + 1, n => fixed digit count (n / 16) ++ [digit (n % 16)]

/-- How many hexadecimal digits `n` has; zero has one. -/
def digitCount (n : Nat) : Nat := Nat.log2 n / 4 + 1

/-- `n` after `0x`, in upper case, with leading zeros up to `least` digits. -/
def number (least n : Nat) : String := "0x" ++ String.ofList (fixed upperDigit (max least (digitCount n)) n)

/-- A byte as `0xFA`. -/
def byte (b : Byte) : String := number 2 b.toNat

/-- An address as `0x00FA`. -/
def address (a : Address) : String := number 4 a.toNat

/-- Bytes as pairs of lower-case digits, with nothing between them. -/
def dump (bytes : List Byte) : String := String.ofList (bytes.flatMap fun b => fixed lowerDigit 2 b.toNat)

theorem length_fixed (digit : Nat → Char) : ∀ count n, (fixed digit count n).length = count
  | 0, _ => rfl
  | count + 1, n => by simp [fixed, length_fixed digit count]

theorem toList_dump_cons (b : Byte) (bytes : List Byte) :
    (dump (b :: bytes)).toList = fixed lowerDigit 2 b.toNat ++ (dump bytes).toList := by
  unfold dump
  rw [List.flatMap_cons, String.toList_ofList, String.toList_ofList]

end Hex
end CoopCpu
