import CoopCpu.Binary64.Shortest
import CoopCpu.Json.Reader
/-!
# Json.Reader.Number — the numbers of a JSON text

A number without point and exponent that fits in 64 bits, with its sign, is a whole number; every other number is a
double.  The digits of a double count as long as they make a number below `2^64`; what follows them only moves the
point.  `Reader.number` reads a number and `Number.describe` says in a complaint what was read.
-/
namespace CoopCpu
namespace Json

inductive Number
  | natural (n : Nat)
  /-- A whole number below zero, by its distance from zero. -/
  | negative (n : Nat)
  | double (isNegative : Bool) (magnitude : Binary64)
  deriving DecidableEq, Repr

namespace Number

/-- A number of digits only, after its sign. -/
def ofDigits (isNegative : Bool) (n : Nat) : Number :=
  if !isNegative then .natural n
  else if 0 < n ∧ n ≤ UInt64.size / 2 then .negative n
  else .double true (Binary64.ofNat n)

/-- The number in a complaint. -/
def describe : Number → String
  | .natural n => "integer `" ++ toString n ++ "`"
  | .negative n => "integer `-" ++ toString n ++ "`"
  | .double isNegative magnitude =>
    "floating point `" ++ (if isNegative then "-" else "") ++ magnitude.shortest.text ++ "`"

end Number

namespace Reader

def isDigit (b : Byte) : Bool := 48 ≤ b.toNat && b.toNat < 58

def digitValue (b : Byte) : Nat := b.toNat - 48

/-- Whether a digit comes next. -/
def atDigit (s : List Byte) : Bool := s.head?.any isDigit

/-- Whether the letter before an exponent comes next. -/
def atExponent (s : List Byte) : Bool := s.head?.any fun b => b == 'e'.toUInt8 || b == 'E'.toUInt8

def atPoint (s : List Byte) : Bool := s.head?.any (· == '.'.toUInt8)

/-- The number with digits put after its last one, as long as it stays below `2^64`, and how many digits are left. -/
def extend (n : Nat) : List Byte → Nat × Nat
  | [] => (n, 0)
  | d :: rest =>
    let longer := n * 10 + digitValue d
    if longer < UInt64.size then extend longer rest else (n, rest.length + 1)

/-- The double `n · 10^exponent`. -/
def double (isNegative : Bool) (n : Nat) (exponent : Int) (rest : List Byte) : Except Flaw (Taken Number) :=
  match (Binary64.ofNat n).scale? exponent with
  | some magnitude => .ok (.double isNegative magnitude, rest)
  | none => fail "number out of range" rest

/-- The number that digits spell; from `2^31` on only the bytes after the digit that makes it so large. -/
def power (value : Nat) : List Byte → Except (List Byte) (Nat × List Byte)
  | [] => .ok (value, [])
  | b :: rest =>
    if isDigit b then
      let longer := value * 10 + digitValue b
      if longer < UInt32.size / 2 then power longer rest else .error rest
    else .ok (value, b :: rest)

/-- Whether an exponent has a minus sign, and the bytes after its sign. -/
def exponentSign : List Byte → Bool × List Byte
  | [] => (false, [])
  | b :: rest =>
    if b = '-'.toUInt8 then (true, rest) else if b = '+'.toUInt8 then (false, rest) else (false, b :: rest)

/-- The rest of a number after the letter before its exponent. -/
def exponent (isNegative : Bool) (n : Nat) (start : Int) (s : List Byte) : Except Flaw (Taken Number) :=
  let (down, s) := exponentSign s
  match s with
  | [] => fail "EOF while parsing a value" []
  | b :: rest =>
    if !isDigit b then fail "invalid number" rest
    else
      match power 0 s with
      | .ok (p, rest) => double isNegative n (if down then start - p else start + p) rest
      | .error rest =>
        if n ≠ 0 ∧ !down then fail "number out of range" rest
        else .ok (.double isNegative Binary64.zero, rest.dropWhile isDigit)

/-- The rest of a number after its point. -/
def fraction (isNegative : Bool) (n : Nat) (start : Int) (s : List Byte) : Except Flaw (Taken Number) :=
  let digits := s.takeWhile isDigit
  let rest := s.dropWhile isDigit
  if digits.isEmpty then fail (if s.isEmpty then "EOF while parsing a value" else "invalid number") (s.drop 1)
  else
    let (n, left) := extend n digits
    let start := start - (digits.length - left : Nat)
    if atExponent rest then exponent isNegative n start (rest.drop 1) else double isNegative n start rest

/-- A number after its sign. -/
def number (isNegative : Bool) (s : List Byte) : Except Flaw (Taken Number) :=
  match s with
  | [] => fail "EOF while parsing a value" []
  | b :: more =>
    if !isDigit b then fail "invalid number" more
    else if b = '0'.toUInt8 ∧ atDigit more then fail "invalid number" (more.drop 1)
    else
      let (n, left) := extend 0 (s.takeWhile isDigit)
      let rest := s.dropWhile isDigit
      if atPoint rest then fraction isNegative n left (rest.drop 1)
      else if atExponent rest then exponent isNegative n left (rest.drop 1)
      else if left = 0 then .ok (Number.ofDigits isNegative n, rest)
      else double isNegative n left rest

/-! ## Numbers that nobody looks at -/

/-- Skips the rest of a number after the letter before its exponent. -/
def skipExponent (s : List Byte) : Except Flaw (List Byte) :=
  match (exponentSign s).2 with
  | [] => fail "invalid number" []
  | b :: rest => if isDigit b then .ok (rest.dropWhile isDigit) else fail "invalid number" rest

/-- Skips the rest of a number after the digits before its point. -/
def skipAfterWhole (s : List Byte) : Except Flaw (List Byte) :=
  if atPoint s then
    let digits := s.drop 1
    if !atDigit digits then fail "invalid number" (digits.drop 1)
    else
      let rest := digits.dropWhile isDigit
      if atExponent rest then skipExponent (rest.drop 1) else .ok rest
  else if atExponent s then skipExponent (s.drop 1)
  else .ok s

/-- Skips a number after its sign. -/
def skipNumber : List Byte → Except Flaw (List Byte)
  | [] => fail "invalid number" []
  | b :: rest =>
    if !isDigit b then fail "invalid number" rest
    else if b = '0'.toUInt8 then
      if atDigit rest then fail "invalid number" (rest.drop 1) else skipAfterWhole rest
    else skipAfterWhole (rest.dropWhile isDigit)

end Reader
end Json
end CoopCpu
