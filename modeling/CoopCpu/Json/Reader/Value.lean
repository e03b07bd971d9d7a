import CoopCpu.Json.Reader.Number
import CoopCpu.Text.Quoted
/-!
# Json.Reader.Value — values that are expected to be of some kind, or that do not matter

`Reader.wrongKind` looks at a value that is not of the kind expected and says what it is instead; what is wrong with the
value itself comes first.  `Reader.skipValue` goes past a value of any kind, however deep it is.
-/
namespace CoopCpu
namespace Json
namespace Reader

/-- The complaint about a value of another kind than the one expected. -/
def wrongKind (expected : String) (s : List Byte) : Flaw :=
  let complain (kind : String) (rest : List Byte) : Flaw :=
    ⟨"invalid type: " ++ kind ++ ", expected " ++ expected, rest⟩
  let afterName (letters : List Char) (kind : String) (rest : List Byte) : Flaw :=
    match keyword letters rest with
    | .ok rest => complain kind rest
    | .error flaw => flaw
  let afterNumber (r : Except Flaw (Taken Number)) : Flaw :=
    match r with
    | .ok (n, rest) => complain n.describe rest
    | .error flaw => flaw
  match s with
  | [] => ⟨"EOF while parsing a value", []⟩
  | b :: rest =>
    if b = 'n'.toUInt8 then afterName ['u', 'l', 'l'] "null" rest
    else if b = 't'.toUInt8 then afterName ['r', 'u', 'e'] "boolean `true`" rest
    else if b = 'f'.toUInt8 then afterName ['a', 'l', 's', 'e'] "boolean `false`" rest
    else if b = '-'.toUInt8 then afterNumber (number true rest)
    else if isDigit b then afterNumber (number false s)
    else if b = '"'.toUInt8 then
      match quoted rest with
      | .ok (content, rest) => complain ("string " ++ Text.quote content) rest
      | .error flaw => flaw
    else if b = '['.toUInt8 then complain "sequence" s
    else if b = '\x7b'.toUInt8 then complain "map" s
    else ⟨"expected value", rest⟩

/-! ## Skipping -/

/-- A container that is still open. -/
inductive Container
  | array
  | object
  deriving DecidableEq, Repr

/-- What may come next inside a value that is skipped. -/
inductive Awaited
  | value
  /-- The first item or member, or the end of the container. -/
  | first
  /-- A comma, or the end of the container. -/
  | separator
  deriving DecidableEq, Repr

namespace Container

def closing : Container → Byte
  | array => ']'.toUInt8
  | object => '\x7d'.toUInt8

/-- What comes before the value of an item or a member: nothing, or a key and a colon. -/
def skipKey : Container → List Byte → Except Flaw (List Byte)
  | array, s => .ok s
  | object, s => do
    let s ← openKey "EOF while parsing an object" (skipBlanks s)
    colon (← skipQuoted s)

def complaintAtEnd : Container → String
  | array => "EOF while parsing a list"
  | object => "EOF while parsing an object"

def complaintAtSeparator : Container → String
  | array => "expected `,` or `]`"
  | object => "expected `,` or `\x7d`"

end Container

/-- The containers that are open once a value is skipped, the innermost first, what is awaited there, and the bytes
after what has been skipped. -/
abbrev Skipping := List Container × Awaited × List Byte

/-- Skips a value that has no parts, or opens a container. -/
def skipHead (containers : List Container) : List Byte → Except Flaw Skipping
  | [] => fail "EOF while parsing a value" []
  | b :: rest => do
    let simple (s : Except Flaw (List Byte)) : Except Flaw Skipping := do return (containers, .separator, ← s)
    if b = 'n'.toUInt8 then simple (keyword ['u', 'l', 'l'] rest)
    else if b = 't'.toUInt8 then simple (keyword ['r', 'u', 'e'] rest)
    else if b = 'f'.toUInt8 then simple (keyword ['a', 'l', 's', 'e'] rest)
    else if b = '-'.toUInt8 then simple (skipNumber rest)
    else if isDigit b then simple (skipNumber (b :: rest))
    else if b = '"'.toUInt8 then simple (skipQuoted rest)
    else if b = '['.toUInt8 then return (.array :: containers, .first, rest)
    else if b = '\x7b'.toUInt8 then return (.object :: containers, .first, rest)
    else fail "expected value" rest

/-- Skips what comes next inside a container. -/
def skipInside (container : Container) (outer : List Container) (isFirst : Bool) (s : List Byte) :
    Except Flaw Skipping :=
  match s with
  | [] => fail container.complaintAtEnd []
  | b :: rest =>
    if b = container.closing then .ok (outer, .separator, rest)
    else if isFirst then do return (container :: outer, .value, ← container.skipKey s)
    else if b = ','.toUInt8 then do return (container :: outer, .value, ← container.skipKey rest)
    else fail container.complaintAtSeparator rest

/-- Goes on skipping until no container is open.  Two steps need at least one byte. -/
def skipOn : (steps : Nat) → Skipping → Except Flaw (List Byte)
  | 0, (_, _, s) => .ok s
  | steps + 1, (containers, awaited, s) =>
    match awaited, containers with
    | .value, _ => do skipOn steps (← skipHead containers (skipBlanks s))
    | .first, container :: outer => do skipOn steps (← skipInside container outer true (skipBlanks s))
    | .separator, container :: outer => do skipOn steps (← skipInside container outer false (skipBlanks s))
    | _, [] => .ok s

/-- Skips a value of any kind. -/
def skipValue (s : List Byte) : Except Flaw (List Byte) := skipOn (2 * s.length + 2) ([], .value, s)

end Reader
end Json
end CoopCpu
