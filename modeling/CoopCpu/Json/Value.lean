import CoopCpu.Json.Token
/-!
# Json.Value — JSON as a tree

`Json.parse` builds a tree from the tokens of a text.  The containers that are still open stand on a stack, so a text of
any length and depth is read in a single pass.  `Json.render` writes a tree in the compact form, without blanks.  The
two kinds of value whose content is forgotten are written in a form that reads back as the same kind.
-/
namespace CoopCpu

inductive Json
  | null
  | bool (b : Bool)
  | natural (n : Nat)
  | number
  | text (content : Json.Quoted)
  | array (items : List Json)
  | object (members : List (Json.Quoted × Json))

namespace Json

/-! ## Reading -/

/-- A container that is still open, with its finished contents, the last one first. -/
inductive Frame
  | array (items : List Json)
  | object (members : List (Quoted × Json))
  /-- An object whose next member has its key and waits for its value. -/
  | member (members : List (Quoted × Json)) (key : Quoted)

/-- What may come next. -/
inductive Expectation
  | value
  /-- A value, or the end of an array that has no items yet. -/
  | firstItem
  /-- A key, or the end of an object that has no members yet. -/
  | firstKey
  | key
  | colon
  /-- A comma or the end of the container. -/
  | separator
  deriving DecidableEq

/-- The tree as far as it has been built. -/
inductive Builder
  | building (frames : List Frame) (expected : Expectation)
  | finished (value : Json)

namespace Builder

def start : Builder := .building [] .value

/-- A value is complete: it goes into the innermost container. -/
def deliver (value : Json) : List Frame → Option Builder
  | [] => some (.finished value)
  | .array items :: outer => some (.building (.array (value :: items) :: outer) .separator)
  | .member members key :: outer => some (.building (.object ((key, value) :: members) :: outer) .separator)
  | .object _ :: _ => none

/-- A token where a value may begin. -/
def beginValue (frames : List Frame) : Token → Option Builder
  | .null => deliver .null frames
  | .bool b => deliver (.bool b) frames
  | .natural n => deliver (.natural n) frames
  | .number => deliver .number frames
  | .text content => deliver (.text content) frames
  | .openArray => some (.building (.array [] :: frames) .firstItem)
  | .openObject => some (.building (.object [] :: frames) .firstKey)
  | _ => none

/-- A token where a container may end. -/
def endContainer : List Frame → Token → Option Builder
  | .array items :: outer, .closeArray => deliver (.array items.reverse) outer
  | .object members :: outer, .closeObject => deliver (.object members.reverse) outer
  | _, _ => none

/-- A token where a member may begin. -/
def beginMember : List Frame → Token → Option Builder
  | .object members :: outer, .text key => some (.building (.member members key :: outer) .colon)
  | _, _ => none

/-- The tree after one more token, if one may go on with it. -/
def feed (t : Token) : Builder → Option Builder
  | .finished _ => none
  | .building frames .value => beginValue frames t
  | .building frames .firstItem => if t = .closeArray then endContainer frames t else beginValue frames t
  | .building frames .firstKey => if t = .closeObject then endContainer frames t else beginMember frames t
  | .building frames .key => beginMember frames t
  | .building frames .colon => if t = .colon then some (.building frames .value) else none
  | .building frames .separator =>
    if t = .comma then
      match frames with
      | .array _ :: _ => some (.building frames .value)
      | .object _ :: _ => some (.building frames .key)
      | _ => none
    else endContainer frames t

/-- The tree after some tokens. -/
def feedAll (b : Builder) : List Token → Option Builder
  | [] => some b
  | t :: rest =>
    match b.feed t with
    | some b' => b'.feedAll rest
    | none => none

end Builder

/-- The tree that the tokens spell. -/
def ofTokens? (tokens : List Token) : Option Json :=
  match Builder.start.feedAll tokens with
  | some (.finished value) => some value
  | _ => none

/-- The tree that a text spells. -/
def parse (text : String) : Option Json :=
  match Token.scan text.toList with
  | some tokens => ofTokens? tokens
  | none => none

/-! ## Writing -/

def hexDigit (d : Nat) : Char := if d < 10 then Char.ofNat (48 + d) else Char.ofNat (87 + d)

/-- A character inside a quoted text.  Quotes, backslashes and control characters are escaped. -/
def escape (c : Char) : List Char :=
  if c = '"' then ['\\', '"']
  else if c = '\\' then ['\\', '\\']
  else if c = '\x08' then ['\\', 'b']
  else if c = '\x0c' then ['\\', 'f']
  else if c = '\n' then ['\\', 'n']
  else if c = '\r' then ['\\', 'r']
  else if c = '\t' then ['\\', 't']
  else if c.toNat < 0x20 then ['\\', 'u', '0', '0', hexDigit (c.toNat / 16), hexDigit (c.toNat % 16)]
  else [c]

/-- A quoted text.  One whose content is forgotten is written as half of a surrogate pair. -/
def quoted : Quoted → String
  | some s => String.ofList ('"' :: s.toList.flatMap escape ++ ['"'])
  | none => "\"\\ud800\""

mutual

/-- Writes a value after the text written so far. -/
def renderAfter (out : String) : Json → String
  | .null => out ++ "null"
  | .bool true => out ++ "true"
  | .bool false => out ++ "false"
  | .natural n => out ++ toString n
  | .number => out ++ "-0"
  | .text content => out ++ quoted content
  | .array items => (renderItems (out.push '[') items).push ']'
  | .object members => (renderMembers (out.push '\x7b') members).push '\x7d'

/-- Writes values with commas between them. -/
def renderItems (out : String) : List Json → String
  | [] => out
  | [item] => renderAfter out item
  | item :: rest => renderItems ((renderAfter out item).push ',') rest

/-- Writes members with commas between them. -/
def renderMembers (out : String) : List (Quoted × Json) → String
  | [] => out
  | [(key, value)] => renderAfter ((out ++ quoted key).push ':') value
  | (key, value) :: rest => renderMembers ((renderAfter ((out ++ quoted key).push ':') value).push ',') rest

end

/-- The compact text of a tree. -/
def render (j : Json) : String := renderAfter "" j

end Json
end CoopCpu
