import CoopCpu.Byte
/-!
# Json.Reader — reading a JSON text byte by byte, with places for complaints

A reader takes something off the front of the bytes of a text and gives back the bytes that follow, or a `Flaw`: a
complaint with the bytes after the place that it is about.  `Flaw.report` turns that place into a line and a column.
This module reads what stands between values: blanks, literal names, the quoted texts and the punctuation of arrays and
objects.  A quoted text that nobody looks at is only skipped, and its escapes need not stand for characters.
-/
namespace CoopCpu
namespace Json

/-- What is wrong with a text, and the bytes after the place where it shows. -/
structure Flaw where
  complaint : String
  rest : List Byte
  deriving DecidableEq, Repr

/-- The complaint with its place among the bytes of the text.  Lines count from 1; the column is the number of bytes
before the place in its line. -/
def Flaw.report (text : List Byte) (f : Flaw) : String :=
  let before := text.take (text.length - f.rest.length)
  let newline := '\n'.toUInt8
  f.complaint ++ " at line " ++ toString (before.count newline + 1) ++ " column " ++
    toString (before.reverse.takeWhile (· != newline)).length

namespace Reader

/-- What was taken off the front of the bytes, and the bytes after it. -/
abbrev Taken (α : Type) := α × List Byte

def fail {α : Type} (complaint : String) (rest : List Byte) : Except Flaw α := .error ⟨complaint, rest⟩

def isBlank (b : Byte) : Bool :=
  b == ' '.toUInt8 || b == '\n'.toUInt8 || b == '\t'.toUInt8 || b == '\r'.toUInt8

def skipBlanks (s : List Byte) : List Byte := s.dropWhile isBlank

/-- The letters that are left of a literal name. -/
def keyword : (letters : List Char) → List Byte → Except Flaw (List Byte)
  | [], s => .ok s
  | _ :: _, [] => fail "EOF while parsing a value" []
  | c :: letters, b :: rest => if b = c.toUInt8 then keyword letters rest else fail "expected ident" rest

/-! ## Quoted texts -/

/-- The value of a hexadecimal digit in either case. -/
def hexValue? (b : Byte) : Option Nat :=
  let n := b.toNat
  if 48 ≤ n ∧ n < 58 then some (n - 48)
  else if 97 ≤ n ∧ n < 103 then some (n - 87)
  else if 65 ≤ n ∧ n < 71 then some (n - 55)
  else none

/-- The number that four hexadecimal digits spell. -/
def unit? (a b c d : Byte) : Option Nat := do
  return (((← hexValue? a) * 16 + (← hexValue? b)) * 16 + (← hexValue? c)) * 16 + (← hexValue? d)

/-- The byte that an escape of one letter stands for. -/
def escapeValue? (b : Byte) : Option Byte :=
  if b = '"'.toUInt8 ∨ b = '\\'.toUInt8 ∨ b = '/'.toUInt8 then some b
  else if b = 'b'.toUInt8 then some 0x08
  else if b = 'f'.toUInt8 then some 0x0C
  else if b = 'n'.toUInt8 then some 0x0A
  else if b = 'r'.toUInt8 then some 0x0D
  else if b = 't'.toUInt8 then some 0x09
  else none

/-- What an escape of four digits comes to after the first half of a surrogate pair or without one: a half that waits
for its partner, or the bytes of a character. -/
def join (half : Option Nat) (unit : Nat) : Option (Option Nat × List Byte) :=
  let isSecond := 0xDC00 ≤ unit && unit < 0xE000
  match half with
  | none =>
    if isSecond then none
    else if 0xD800 ≤ unit ∧ unit < 0xDC00 then some (some unit, [])
    else some (none, String.utf8EncodeChar (Char.ofNat unit))
  | some first =>
    if isSecond then
      some (none, String.utf8EncodeChar (Char.ofNat (0x10000 + (first - 0xD800) * 0x400 + (unit - 0xDC00))))
    else none

/-- The rest of a quoted text, given a half of a surrogate pair that waits for its partner and the bytes so far, the
last one first. -/
def quotedAfter (half : Option Nat) (reversed : List Byte) : List Byte → Except Flaw (Taken String)
  | [] => fail "EOF while parsing a string" []
  | b :: rest =>
    if b = '\\'.toUInt8 then
      match rest with
      | [] => fail "EOF while parsing a string" []
      | e :: rest =>
        if e = 'u'.toUInt8 then
          match rest with
          | a :: b :: c :: d :: rest =>
            match unit? a b c d with
            | none => fail "invalid escape" rest
            | some unit =>
              match join half unit with
              | none => fail "lone leading surrogate in hex escape" rest
              | some (half, bytes) => quotedAfter half (bytes.reverse ++ reversed) rest
          | _ => fail "EOF while parsing a string" []
        else if half.isSome then fail "unexpected end of hex escape" rest
        else
          match escapeValue? e with
          | some value => quotedAfter none (value :: reversed) rest
          | none => fail "invalid escape" rest
    else if half.isSome then fail "unexpected end of hex escape" rest
    else if b = '"'.toUInt8 then .ok ((String.fromUTF8? ⟨reversed.reverse.toArray⟩).getD "", rest)
    else if b < 0x20 then fail "control character (\\u0000-\\u001F) found while parsing a string" rest
    else quotedAfter none (b :: reversed) rest

/-- A quoted text after its opening quote. -/
def quoted (s : List Byte) : Except Flaw (Taken String) := quotedAfter none [] s

/-- Skips a quoted text after its opening quote. -/
def skipQuoted : List Byte → Except Flaw (List Byte)
  | [] => fail "EOF while parsing a string" []
  | b :: rest =>
    if b = '\\'.toUInt8 then
      match rest with
      | [] => fail "EOF while parsing a string" []
      | e :: rest =>
        if e = 'u'.toUInt8 then
          match rest with
          | a :: b :: c :: d :: rest =>
            if (unit? a b c d).isSome then skipQuoted rest else fail "invalid escape" rest
          | _ => fail "EOF while parsing a string" []
        else if (escapeValue? e).isSome then skipQuoted rest
        else fail "invalid escape" rest
    else if b = '"'.toUInt8 then .ok rest
    else if b < 0x20 then fail "control character (\\u0000-\\u001F) found while parsing a string" (b :: rest)
    else skipQuoted rest

/-! ## Arrays and objects -/

/-- Goes to the next item of an array: whether there is one, or else past the end of the array. -/
def nextItem (isFirst : Bool) (s : List Byte) : Except Flaw (Taken Bool) :=
  match skipBlanks s with
  | [] => fail "EOF while parsing a list" []
  | b :: rest =>
    if b = ']'.toUInt8 then .ok (false, rest)
    else if isFirst then .ok (true, b :: rest)
    else if b = ','.toUInt8 then
      match skipBlanks rest with
      | [] => fail "EOF while parsing a value" []
      | c :: more => if c = ']'.toUInt8 then fail "trailing comma" more else .ok (true, c :: more)
    else fail "expected `,` or `]`" rest

/-- The end of an array that must have no more items. -/
def endArray (s : List Byte) : Except Flaw (List Byte) :=
  match skipBlanks s with
  | [] => fail "EOF while parsing a list" []
  | b :: rest =>
    if b = ']'.toUInt8 then .ok rest
    else if b = ','.toUInt8 then
      match skipBlanks rest with
      | [] => fail "trailing characters" []
      | c :: more => fail (if c = ']'.toUInt8 then "trailing comma" else "trailing characters") more
    else fail "trailing characters" rest

/-- The quote that a key begins with. -/
def openKey (complaintAtEnd : String) : List Byte → Except Flaw (List Byte)
  | [] => fail complaintAtEnd []
  | b :: rest => if b = '"'.toUInt8 then .ok rest else fail "key must be a string" rest

/-- Goes to the next key of an object and reads it; nothing past the end of the object. -/
def nextKey (isFirst : Bool) (s : List Byte) : Except Flaw (Taken (Option String)) :=
  let key (s : List Byte) (complaintAtEnd : String) : Except Flaw (Taken (Option String)) := do
    let (key, s) ← quoted (← openKey complaintAtEnd s)
    return (some key, s)
  match skipBlanks s with
  | [] => fail "EOF while parsing an object" []
  | b :: rest =>
    if b = '\x7d'.toUInt8 then .ok (none, rest)
    else if isFirst then key (b :: rest) "EOF while parsing an object"
    else if b = ','.toUInt8 then
      match skipBlanks rest with
      | c :: more =>
        if c = '\x7d'.toUInt8 then fail "trailing comma" more else key (c :: more) "EOF while parsing a value"
      | [] => key [] "EOF while parsing a value"
    else fail "expected `,` or `\x7d`" rest

/-- The colon after a key. -/
def colon (s : List Byte) : Except Flaw (List Byte) :=
  match skipBlanks s with
  | [] => fail "EOF while parsing an object" []
  | b :: rest => if b = ':'.toUInt8 then .ok rest else fail "expected `:`" rest

/-- The bytes after the blanks that come next, and after the end of the object if that follows. -/
def leaveObject (s : List Byte) : List Byte :=
  match skipBlanks s with
  | [] => []
  | b :: rest => if b = '\x7d'.toUInt8 then rest else b :: rest

end Reader
end Json
end CoopCpu
