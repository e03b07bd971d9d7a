/-!
# Text.Decimal — how a decimal number is shown

A decimal number is its digits and the place of its point.  `Decimal.text` shows it positionally where that takes at
most sixteen places before the point or four zeros after it, and with a signed exponent elsewhere.
-/
namespace CoopCpu

/-- The number `0.d₁d₂… · 10^point`. -/
structure Decimal where
  /-- The digits, with no zero at either end; none for zero. -/
  digits : List Char
  point : Int
  deriving DecidableEq, Repr

namespace Decimal

def zero : Decimal := ⟨[], 0⟩

/-- The number `n · 10^exponent`. -/
def ofNat (n : Nat) (exponent : Int) : Decimal :=
  let digits := Nat.toDigits 10 n
  ⟨(digits.reverse.dropWhile (· = '0')).reverse, digits.length + exponent⟩

/-- An exponent with its sign. -/
def exponentText (e : Int) : String := (if e < 0 then "e-" else "e+") ++ toString e.natAbs

def text (d : Decimal) : String :=
  let count : Int := d.digits.length
  if d.digits.isEmpty then "0.0"
  else if count ≤ d.point ∧ d.point ≤ 16 then
    String.ofList (d.digits ++ List.replicate (d.point - count).toNat '0') ++ ".0"
  else if 0 < d.point ∧ d.point ≤ 16 then
    String.ofList (d.digits.take d.point.toNat ++ '.' :: d.digits.drop d.point.toNat)
  else if -5 < d.point ∧ d.point ≤ 0 then
    "0." ++ String.ofList (List.replicate (-d.point).toNat '0' ++ d.digits)
  else
    let fraction := if count = 1 then [] else '.' :: d.digits.drop 1
    String.ofList (d.digits.take 1 ++ fraction) ++ exponentText (d.point - 1)

end Decimal
end CoopCpu
