/-!
# Binary64 — exact arithmetic of double-precision numbers

Every finite double that is not negative is a multiple of `2^-1074`, so one natural number stands for it: how many of
these units it has.  An operation takes the exact result as a quotient of natural numbers and rounds it once, to the
nearest double, and to the one with an even significand if two are equally near.  `Binary64.scale?` multiplies by a
power of ten the way a quick reader of decimal numbers does: by a rounded power, in steps of at most `10^308`.
-/
namespace CoopCpu

/-- The nearest whole number to a quotient; of two that are equally near, the even one. -/
def roundedQuotient (num den : Nat) : Nat :=
  let q := num / den
  let twice := 2 * (num % den)
  if twice < den then q else if den < twice then q + 1 else q + q % 2

/-- The double `units · 2^-1074`. -/
structure Binary64 where
  units : Nat
  deriving DecidableEq, Repr

namespace Binary64

/-- How many bits a significand has. -/
def precision : Nat := 53

/-- How many units make one. -/
def one : Nat := Nat.pow 2 1074

/-- The weight of the last bit of a significand, as a power of two, for numbers of this many units. -/
def lastBit (units : Nat) : Nat := units.log2 + 1 - precision

/-- The double nearest to a quotient of units, were there no largest one. -/
def nearest (num den : Nat) : Binary64 :=
  let weight := Nat.pow 2 (lastBit (num / den))
  ⟨roundedQuotient num (den * weight) * weight⟩

/-- Whether a number is below `2^1024`, as every finite double is. -/
def isFinite (x : Binary64) : Bool := x.units < Nat.pow 2 1024 * one

def zero : Binary64 := ⟨0⟩

def ofNat (n : Nat) : Binary64 := nearest (n * one) 1

def mul (x y : Binary64) : Binary64 := nearest (x.units * y.units) one

def div (x y : Binary64) : Binary64 := nearest (x.units * one) y.units

/-- The double nearest to a power of ten. -/
def powerOfTen (exponent : Nat) : Binary64 := ofNat (Nat.pow 10 exponent)

/-- The largest exponent for which a power of ten is finite. -/
def largestPower : Nat := 308

/-- The number multiplied by a power of ten, unless the product is out of range. -/
def scale? (x : Binary64) (exponent : Int) : Option Binary64 :=
  if x = zero then some zero
  else if largestPower < exponent then none
  else if exponent < -largestPower then (x.div (powerOfTen largestPower)).scale? (exponent + largestPower)
  else if exponent < 0 then some (x.div (powerOfTen (-exponent).toNat))
  else
    let product := x.mul (powerOfTen exponent.toNat)
    if product.isFinite then some product else none
termination_by (-exponent).toNat
decreasing_by
  simp only [largestPower] at *
  omega

end Binary64
end CoopCpu
