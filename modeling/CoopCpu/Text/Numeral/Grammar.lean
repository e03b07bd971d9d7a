import CoopCpu.Text.Hex
import CoopCpu.Text.Numeral
import Mathlib.Data.List.Forall2
import Mathlib.Data.Nat.Digits.Defs
/-!
# Text.Numeral.Grammar — which texts are numbers

A number is some digits after an optional plus sign; `0x` or `0X` before both announces that the digits are hexadecimal.
`Spells` is this grammar, with the number that a text stands for, however large.  `Bare` are the texts that end where sign
or digits should begin, and `Exceeds` those whose digits have become too many before any character that is no digit.
`Reads` says which outcome each text must have.  `Hex.Pairs` are the texts that show bytes, each by two digits.
-/
namespace CoopCpu

/-- A text is some blanks, a core that neither begins nor ends with a blank, and more blanks. -/
structure Text.Trims (cs core : List Char) : Prop where
  split : ∃ before after, cs = before ++ core ++ after ∧ ∀ c ∈ before ++ after, isBlank c = true
  first : ∀ c ∈ core.head?, isBlank c = false
  last : ∀ c ∈ core.getLast?, isBlank c = false

namespace Numeral

/-! ## Digits -/

/-- The character is the digit `d` to the radix; a letter may be large or small. -/
def IsDigit (radix : Nat) (c : Char) (d : Nat) : Prop := d < radix ∧ (c = Hex.lowerDigit d ∨ c = Hex.upperDigit d)

/-- The digits, with the most significant one first, stand for `n`. -/
def Denotes (radix : Nat) (cs : List Char) (n : Nat) : Prop :=
  ∃ ds, List.Forall₂ (IsDigit radix) cs ds ∧ n = Nat.ofDigits radix ds.reverse

/-- The digits may have a plus sign before them. -/
def Signed (digits cs : List Char) : Prop := cs = digits ∨ cs = '+' :: digits

/-! ## Texts -/

/-- What comes before sign and digits, and the radix of the digits. -/
inductive Announces : List Char → Nat → Prop
  | nothing : Announces [] 10
  | small : Announces ['0', 'x'] 16
  | large : Announces ['0', 'X'] 16

/-- After the announcement of a radix comes a body of a certain kind. -/
def Announced (kind : Nat → List Char → Prop) (cs : List Char) : Prop :=
  ∃ opening radix body, Announces opening radix ∧ cs = opening ++ body ∧ kind radix body

/-- The body is the number `n`: at least one digit, and a plus sign or none. -/
def Makes (n radix : Nat) (body : List Char) : Prop := ∃ digits, digits ≠ [] ∧ Signed digits body ∧ Denotes radix digits n

/-- The body begins with digits that already stand for too large a number; what comes after them does not matter. -/
def Overflows (radix : Nat) (body : List Char) : Prop :=
  ∃ digits rest n, Signed (digits ++ rest) body ∧ Denotes radix digits n ∧ limit ≤ n

/-- The text spells a number. -/
def Spells (cs : List Char) (n : Nat) : Prop := Announced (Makes n) cs

/-- Nothing is left where sign or digits should begin. -/
def Bare (cs : List Char) : Prop := Announced (fun _ body => body = []) cs

/-- The digits of the text are too many, before any character among them that is no digit. -/
def Exceeds (cs : List Char) : Prop := Announced Overflows cs

/-- What reading a text comes to. -/
structure Reads (cs : List Char) (outcome : Except Flaw Nat) : Prop where
  number : ∀ n, outcome = .ok n ↔ n < limit ∧ Spells cs n
  empty : outcome = .error .empty ↔ Bare cs
  overflow : outcome = .error .overflow ↔ Exceeds cs
  invalidDigit : outcome = .error .invalidDigit ↔ (∀ n < limit, ¬ Spells cs n) ∧ ¬ Bare cs ∧ ¬ Exceeds cs

/-- The usual ways to write a number, with any number of zeros before its first digit: decimal, and hexadecimal after an
announcement, in large or small letters. -/
inductive Renders (v : Nat) : List Char → Prop
  | decimal (zeros : Nat) : Renders v (List.replicate zeros '0' ++ Nat.toDigits 10 v)
  | hexadecimal {opening : List Char} {digit : Nat → Char} {count : Nat} (announced : Announces opening 16)
      (letters : digit = Hex.lowerDigit ∨ digit = Hex.upperDigit) (positive : 0 < count) (enough : v < 16 ^ count) :
      Renders v (opening ++ Hex.fixed digit count v)

end Numeral

/-- The text is two hexadecimal digits for each byte, with nothing between them. -/
inductive Hex.Pairs : List Char → List Byte → Prop
  | nil : Pairs [] []
  | cons {pair cs : List Char} {b : Byte} {bytes : List Byte} (two : pair.length = 2)
      (digits : Numeral.Denotes 16 pair b.toNat) (others : Pairs cs bytes) : Pairs (pair ++ cs) (b :: bytes)

end CoopCpu
