/-!
# Json.Token — the symbols of a JSON text

A JSON text is read in one pass, a character at a time: `Scanner.feed` is the step and `Token.scan` the whole run.  Only
what a reader of whole numbers and texts needs is kept.  A number that is written with a sign, a point or an exponent is
recognised but its value is forgotten; so is a text whose escapes stand for half of a surrogate pair.
-/
namespace CoopCpu
namespace Json

/-- The content of a quoted text, unless its escapes do not stand for characters. -/
abbrev Quoted := Option String

inductive Token
  | openArray
  | closeArray
  | openObject
  | closeObject
  | comma
  | colon
  | null
  | bool (b : Bool)
  /-- A number that consists of digits only. -/
  | natural (n : Nat)
  /-- Any other number. -/
  | number
  | text (content : Quoted)
  deriving DecidableEq, Repr

/-! ## Numbers -/

/-- How far a number has been read. -/
inductive NumberPart
  | minus
  | zero (negative : Bool)
  /-- Digits before the point, with the value if there was no sign. -/
  | whole (value : Option Nat)
  | point
  | fraction
  | exponent
  | exponentSign
  | power
  deriving DecidableEq, Repr

/-- The value of a decimal digit. -/
def digitValue (c : Char) : Nat := c.toNat - 48

namespace NumberPart

/-- The part after one more character, if the number goes on with it. -/
def feed (c : Char) : NumberPart → Option NumberPart
  | minus => if c = '0' then some (zero true) else if c.isDigit then some (whole none) else none
  | zero _ => if c = '.' then some point else if c = 'e' ∨ c = 'E' then some exponent else none
  | whole value =>
    if c.isDigit then some (whole (value.map fun n => n * 10 + digitValue c))
    else if c = '.' then some point
    else if c = 'e' ∨ c = 'E' then some exponent
    else none
  | point => if c.isDigit then some fraction else none
  | fraction => if c.isDigit then some fraction else if c = 'e' ∨ c = 'E' then some exponent else none
  | exponent => if c = '+' ∨ c = '-' then some exponentSign else if c.isDigit then some power else none
  | exponentSign => if c.isDigit then some power else none
  | power => if c.isDigit then some power else none

/-- The token of a number that ends here, if it may. -/
def token? : NumberPart → Option Token
  | zero false => some (.natural 0)
  | zero true => some .number
  | whole (some n) => some (.natural n)
  | whole none => some .number
  | fraction => some .number
  | power => some .number
  | _ => none

end NumberPart

/-! ## Quoted texts -/

/-- A quoted text as far as it has been read. -/
structure Writing where
  /-- The characters, the last one first. -/
  reversed : List Char
  /-- The first half of a surrogate pair that waits for the second. -/
  half : Option Nat
  /-- Whether a half had no partner. -/
  broken : Bool
  deriving DecidableEq, Repr

namespace Writing

def start : Writing := ⟨[], none, false⟩

def addChar (w : Writing) (c : Char) : Writing :=
  match w.half with
  | none => { w with reversed := c :: w.reversed }
  | some _ => { w with half := none, broken := true }

def isHighSurrogate (unit : Nat) : Bool := 0xD800 ≤ unit && unit < 0xDC00

def isLowSurrogate (unit : Nat) : Bool := 0xDC00 ≤ unit && unit < 0xE000

/-- Adds what a four-digit escape stands for: a character or half of a pair. -/
def addUnit (w : Writing) (unit : Nat) : Writing :=
  match w.half with
  | none =>
    if isHighSurrogate unit then { w with half := some unit }
    else if isLowSurrogate unit then { w with broken := true }
    else w.addChar (Char.ofNat unit)
  | some high =>
    if isLowSurrogate unit then
      { w with half := none }.addChar (Char.ofNat (0x10000 + (high - 0xD800) * 0x400 + (unit - 0xDC00)))
    else { w with half := none, broken := true }

def content (w : Writing) : Quoted :=
  if w.broken || w.half.isSome then none else some (String.ofList w.reversed.reverse)

end Writing

/-- The character of an escape of one letter. -/
def escapeValue? (c : Char) : Option Char :=
  if c = '"' ∨ c = '\\' ∨ c = '/' then some c
  else if c = 'b' then some '\x08'
  else if c = 'f' then some '\x0c'
  else if c = 'n' then some '\n'
  else if c = 'r' then some '\r'
  else if c = 't' then some '\t'
  else none

/-- The value of a hexadecimal digit in either case. -/
def hexValue? (c : Char) : Option Nat :=
  if '0' ≤ c ∧ c ≤ '9' then some (c.toNat - 48)
  else if 'a' ≤ c ∧ c ≤ 'f' then some (c.toNat - 87)
  else if 'A' ≤ c ∧ c ≤ 'F' then some (c.toNat - 55)
  else none

/-! ## Scanning -/

/-- Where the scanner stands. -/
inductive Mode
  | between
  /-- Inside a literal name, with the letters still to come. -/
  | name (rest : List Char) (token : Token)
  | number (part : NumberPart)
  | text (w : Writing)
  /-- After a backslash. -/
  | escape (w : Writing)
  /-- Inside a four-digit escape. -/
  | unit (w : Writing) (left value : Nat)
  deriving DecidableEq, Repr

structure Scanner where
  mode : Mode
  /-- The tokens found, the last one first. -/
  tokens : List Token
  deriving DecidableEq, Repr

namespace Scanner

def start : Scanner := ⟨.between, []⟩

def emit (tokens : List Token) (t : Token) : Scanner := ⟨.between, t :: tokens⟩

/-- A character between tokens. -/
def feedBetween (tokens : List Token) (c : Char) : Option Scanner :=
  if c = ' ' ∨ c = '\t' ∨ c = '\n' ∨ c = '\r' then some ⟨.between, tokens⟩
  else if c = '[' then some (emit tokens .openArray)
  else if c = ']' then some (emit tokens .closeArray)
  else if c = '\x7b' then some (emit tokens .openObject)
  else if c = '\x7d' then some (emit tokens .closeObject)
  else if c = ',' then some (emit tokens .comma)
  else if c = ':' then some (emit tokens .colon)
  else if c = '"' then some ⟨.text Writing.start, tokens⟩
  else if c = '-' then some ⟨.number .minus, tokens⟩
  else if c = '0' then some ⟨.number (.zero false), tokens⟩
  else if c.isDigit then some ⟨.number (.whole (some (digitValue c))), tokens⟩
  else if c = 'n' then some ⟨.name ['u', 'l', 'l'] .null, tokens⟩
  else if c = 't' then some ⟨.name ['r', 'u', 'e'] (.bool true), tokens⟩
  else if c = 'f' then some ⟨.name ['a', 'l', 's', 'e'] (.bool false), tokens⟩
  else none

/-- The scanner after one more character, if a JSON text may go on with it. -/
def feed (s : Scanner) (c : Char) : Option Scanner :=
  match s.mode with
  | .between => feedBetween s.tokens c
  | .name rest token =>
    match rest with
    | [] => none
    | [last] => if c = last then some (emit s.tokens token) else none
    | next :: more => if c = next then some { s with mode := .name more token } else none
  | .number part =>
    match part.feed c with
    | some part' => some { s with mode := .number part' }
    | none =>
      match part.token? with
      | some t => feedBetween (t :: s.tokens) c
      | none => none
  | .text w =>
    if c = '"' then some (emit s.tokens (.text w.content))
    else if c = '\\' then some { s with mode := .escape w }
    else if c.toNat < 0x20 then none
    else some { s with mode := .text (w.addChar c) }
  | .escape w =>
    if c = 'u' then some { s with mode := .unit w 4 0 }
    else (escapeValue? c).map fun v => { s with mode := .text (w.addChar v) }
  | .unit w left value =>
    (hexValue? c).map fun d =>
      let value' := value * 16 + d
      if left ≤ 1 then { s with mode := .text (w.addUnit value') } else { s with mode := .unit w (left - 1) value' }

/-- The scanner after a text. -/
def feedAll (s : Scanner) : List Char → Option Scanner
  | [] => some s
  | c :: rest =>
    match s.feed c with
    | some s' => s'.feedAll rest
    | none => none

/-- The tokens of a text that ends here, the last one first, if it may. -/
def finish (s : Scanner) : Option (List Token) :=
  match s.mode with
  | .between => some s.tokens
  | .number part => part.token?.map fun t => t :: s.tokens
  | _ => none

end Scanner

/-- The tokens of a text. -/
def Token.scan (text : List Char) : Option (List Token) :=
  match Scanner.start.feedAll text with
  | some s => s.finish.map List.reverse
  | none => none

end Json
end CoopCpu
