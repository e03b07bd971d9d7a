import CoopCpu.Json.Reader.Value
import CoopCpu.Table
/-!
# Table.File — instruction tables kept in files

A table file is a JSON array of records, each with a code, a mnemonic and the operand widths.  A record is written as an
object, whose other members are ignored, or as the array of its three fields.  `Definition.listOfText` reads the records
from left to right and complains about the first thing that cannot stand there; `Table.ofText` and `Table.ofFile` make
a table of them.
-/
namespace CoopCpu
namespace Definition

open Json (Flaw)
open Json.Reader

/-- What a record is called in a complaint. -/
def recordKind : String := "struct InstructionDef"

/-- A number that fits in a byte. -/
def readByte (s : List Byte) : Except Flaw (Taken Byte) :=
  let fit (r : Except Flaw (Taken Json.Number)) : Except Flaw (Taken Byte) := do
    match ← r with
    | (.natural n, rest) =>
      if n < 256 then return (UInt8.ofNat n, rest)
      else fail ("invalid value: " ++ (Json.Number.natural n).describe ++ ", expected u8") rest
    | (.negative n, rest) => fail ("invalid value: " ++ (Json.Number.negative n).describe ++ ", expected u8") rest
    | (n, rest) => fail ("invalid type: " ++ n.describe ++ ", expected u8") rest
  match skipBlanks s with
  | [] => fail "EOF while parsing a value" []
  | b :: rest =>
    if b = '-'.toUInt8 then fit (number true rest)
    else if isDigit b then fit (number false (b :: rest))
    else .error (wrongKind "u8" (b :: rest))

def readString (s : List Byte) : Except Flaw (Taken String) :=
  match skipBlanks s with
  | [] => fail "EOF while parsing a value" []
  | b :: rest => if b = '"'.toUInt8 then quoted rest else .error (wrongKind "a string" (b :: rest))

/-- The items of an array that has begun, given those before them, the last one first.  Every item takes at least one
byte. -/
def readItems {α : Type} (item : List Byte → Except Flaw (Taken α)) :
    (most : Nat) → (done : List α) → List Byte → Except Flaw (Taken (List α))
  | 0, done, s => .ok (done.reverse, s)
  | most + 1, done, s => do
    match ← nextItem done.isEmpty s with
    | (true, s) =>
      let (a, s) ← item s
      readItems item most (a :: done) s
    | (false, s) => return (done.reverse, s)

/-- An array. -/
def readList {α : Type} (item : List Byte → Except Flaw (Taken α)) (s : List Byte) : Except Flaw (Taken (List α)) :=
  match skipBlanks s with
  | [] => fail "EOF while parsing a value" []
  | b :: rest =>
    if b = '['.toUInt8 then readItems item (rest.length + 1) [] rest
    else .error (wrongKind "a sequence" (b :: rest))

/-! ## Records -/

/-- The fields of a record as far as they have been read. -/
structure Draft where
  code : Option Byte := none
  name : Option String := none
  widths : Option (List Byte) := none

namespace Draft

/-- The record, or the name of the first field that is missing. -/
def finish (d : Draft) : Except String Definition :=
  match d.code, d.name, d.widths with
  | some code, some name, some widths => .ok ⟨code, name, widths⟩
  | none, _, _ => .error "code"
  | _, none, _ => .error "name"
  | _, _, none => .error "args"

/-- Whether a field has been read. -/
def has (d : Draft) (field : String) : Bool :=
  (field == "code" && d.code.isSome) || (field == "name" && d.name.isSome) || (field == "args" && d.widths.isSome)

/-- Reads the value of a member; one that is no field of a record is skipped. -/
def readMember (d : Draft) (key : String) (s : List Byte) : Except Flaw (Taken Draft) := do
  if key = "code" then
    let (code, s) ← readByte s
    return ({ d with code := some code }, s)
  else if key = "name" then
    let (name, s) ← readString s
    return ({ d with name := some name }, s)
  else if key = "args" then
    let (widths, s) ← readList readByte s
    return ({ d with widths := some widths }, s)
  else return (d, ← skipValue s)

end Draft

/-- The members of an object that has begun, given the fields read before them.  Every member takes at least one
byte. -/
def readMembers : (most : Nat) → (isFirst : Bool) → Draft → List Byte → Except Flaw (Taken Definition)
  | 0, _, _, s => fail "EOF while parsing an object" s
  | most + 1, isFirst, d, s => do
    match ← nextKey isFirst s with
    | (some key, s) =>
      if d.has key then fail ("duplicate field `" ++ key ++ "`") (leaveObject s)
      else
        let (d, s) ← d.readMember key (← colon s)
        readMembers most false d s
    | (none, s) =>
      match d.finish with
      | .ok definition => return (definition, s)
      | .error field => fail ("missing field `" ++ field ++ "`") s

/-- The next field of a record that is written as an array. -/
def readField {α : Type} (index : Nat) (read : List Byte → Except Flaw (Taken α)) (s : List Byte) :
    Except Flaw (Taken α) := do
  match ← nextItem (index == 0) s with
  | (true, s) => read s
  | (false, s) =>
    fail ("invalid length " ++ toString index ++ ", expected " ++ recordKind ++ " with 3 elements") s

/-- The fields of a record that is written as an array, and its end. -/
def readFields (s : List Byte) : Except Flaw (Taken Definition) := do
  let (code, s) ← readField 0 readByte s
  let (name, s) ← readField 1 readString s
  let (widths, s) ← readField 2 (readList readByte) s
  return (⟨code, name, widths⟩, ← endArray s)

def readRecord (s : List Byte) : Except Flaw (Taken Definition) :=
  match skipBlanks s with
  | [] => fail "EOF while parsing a value" []
  | b :: rest =>
    if b = '['.toUInt8 then readFields rest
    else if b = '\x7b'.toUInt8 then readMembers (rest.length + 1) true {} rest
    else .error (wrongKind recordKind (b :: rest))

/-- The records that a whole text spells. -/
def readAll (text : List Byte) : Except Flaw (List Definition) := do
  let (definitions, rest) ← readList readRecord text
  match skipBlanks rest with
  | [] => return definitions
  | _ :: rest => fail "trailing characters" rest

/-- The records that a text spells, or what is wrong with it and where. -/
def listOfText (text : String) : Except SetupError (List Definition) :=
  let bytes := text.toUTF8.toList
  (readAll bytes).mapError fun flaw => .malformed (flaw.report bytes)

end Definition

namespace Table

/-- The table of a file's text. -/
def ofText (text : String) : Except SetupError Table := do ofDefinitions (← Definition.listOfText text)

/-- The table of a file's bytes. -/
def ofFile (bytes : ByteArray) : Except SetupError Table :=
  match String.fromUTF8? bytes with
  | some text => ofText text
  | none => .error (.file .notText)

end Table
end CoopCpu
