import CoopCpu.Text.Blank
/-!
# Text.Numeral — numbers below 2^64 read from text

Digits are read from left to right.  A character that is no digit is reported even where the number would also become
too large at that very place; a number that is already too large is reported whatever follows.  `parse` is the reader
for settings: blanks around the number are dropped and `0x` or `0X` announces hexadecimal digits.
-/
namespace CoopCpu
namespace Numeral

/-- Why a text is no number below 2^64. -/
inductive Flaw
  | empty
  | invalidDigit
  | overflow
  deriving DecidableEq, Repr

/-- The flaw in words. -/
def Flaw.message : Flaw → String
  | .empty => "cannot parse integer from empty string"
  | .invalidDigit => "invalid digit found in string"
  | .overflow => "number too large to fit in target type"

/-- The number every value lies below. -/
def limit : Nat := UInt64.size

/-- The value of an ASCII digit or letter, if it is a digit to the radix. -/
def digit? (radix : Nat) (c : Char) : Option Nat :=
  let value :=
    if '0' ≤ c ∧ c ≤ '9' then some (c.toNat - 48)
    else if 'a' ≤ c ∧ c ≤ 'z' then some (c.toNat - 87)
    else if 'A' ≤ c ∧ c ≤ 'Z' then some (c.toNat - 55)
    else none
  value.filter (· < radix)

/-- Appends the digits to the number read so far. -/
def extend (radix : Nat) : Nat → List Char → Except Flaw Nat
  | n, [] => .ok n
  | n, c :: rest =>
    match digit? radix c with
    | none => .error .invalidDigit
    | some d => if n * radix + d < limit then extend radix (n * radix + d) rest else .error .overflow

/-- An optional plus sign and at least one digit. -/
def ofDigits (radix : Nat) : List Char → Except Flaw Nat
  | [] => .error .empty
  | ['+'] => .error .invalidDigit
  | '+' :: digits => extend radix 0 digits
  | digits => extend radix 0 digits

/-- A number in a setting: decimal, or hexadecimal after `0x` or `0X`, with blanks around it allowed. -/
def parse (text : String) : Except Flaw Nat :=
  match Text.trim text.toList with
  | '0' :: 'x' :: digits => ofDigits 16 digits
  | '0' :: 'X' :: digits => ofDigits 16 digits
  | digits => ofDigits 10 digits

end Numeral
end CoopCpu
