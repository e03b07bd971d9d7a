import CoopCpu.Binary64
import CoopCpu.Text.Decimal
/-!
# Binary64.Shortest — the fewest digits that stand for a double

A decimal number stands for the double it is rounded to.  `Binary64.shortest` looks for one with a single digit, then
with two, and so on; on each grid only the two neighbours of the double can stand for it, and the nearer one is
preferred.  Seventeen digits always suffice.
-/
namespace CoopCpu
namespace Binary64

/-- Whether a quotient of units is rounded to this double: it lies no further away than half the distance to the next
double on its side, and the half itself counts if the significand is even. -/
def covers (x : Binary64) (num den : Nat) : Bool :=
  let bit := lastBit x.units
  let significand := x.units / Nat.pow 2 bit
  let above := Nat.pow 2 (bit + 1)
  let below := if significand = Nat.pow 2 (precision - 1) ∧ 0 < bit then Nat.pow 2 bit else above
  let low := (4 * x.units - below) * den
  let high := (4 * x.units + above) * den
  if significand % 2 = 0 then low ≤ 4 * num && 4 * num ≤ high else low < 4 * num && 4 * num < high

/-- The number of places before the point, which is not positive for a number below a tenth. -/
def places (x : Binary64) : Int := (Nat.toDigits 10 (x.units * Nat.pow 10 400 / one)).length - 400

/-- The multiple of `10^exponent` that stands for the double, if there is one. -/
def onGrid (x : Binary64) (exponent : Int) : Option Nat :=
  let num := x.units * Nat.pow 10 (-exponent).toNat
  let den := one * Nat.pow 10 exponent.toNat
  let near := roundedQuotient num den
  let far := if near = num / den then near + 1 else near - 1
  [near, far].find? fun c => x.covers (c * den) (Nat.pow 10 (-exponent).toNat)

/-- The decimal with a number of digits that stands for the double, if there is one. -/
def withDigits (x : Binary64) (count : Nat) : Option Decimal :=
  let exponent := x.places - count
  (x.onGrid exponent).map fun c => Decimal.ofNat c exponent

/-- The decimal with the fewest digits that stands for the double. -/
def shortest (x : Binary64) : Decimal :=
  if x = zero then Decimal.zero
  else ((List.range' 1 17).findSome? x.withDigits).getD (Decimal.ofNat (x.units / one) 0)

end Binary64
end CoopCpu
