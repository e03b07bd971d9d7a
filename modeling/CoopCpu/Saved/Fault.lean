import CoopCpu.Fault
import CoopCpu.Json.Shape
/-!
# Saved.Fault — the JSON form of a fault

A fault is saved under its tag: the tag alone if there is nothing more to say, else an object whose only member has the
tag as its key.  One number stands by itself, two form a record.  A tag alone may also be read from an object, with
`null` as the value.
-/
namespace CoopCpu
namespace Fault

/-- The name a fault is saved under. -/
def tag : Fault → String
  | .haltInstruction => "HaltInstruction"
  | .illegalRegisterRead _ => "IllegalRegisterRead"
  | .illegalRegisterWrite _ => "IllegalRegisterWrite"
  | .illegalJumpTarget _ _ => "IllegalJumpTarget"
  | .illegalBitOffset _ => "IllegalBitOffset"
  | .noInactiveThreads => "NoInactiveThreads"
  | .onlyOneThreadActive => "OnlyOneThreadActive"
  | .noActiveThreads => "NoActiveThreads"
  | .programCounterOverflow _ => "ProgramCounterOverflow"
  | .memoryOutOfBounds _ => "MemoryOutOfBounds"
  | .unknownOpcode _ _ => "UnknownOpcode"

/-- The faults that a tag says all about. -/
def ofTag? (tag : String) : Option Fault :=
  if tag = "HaltInstruction" then some .haltInstruction
  else if tag = "NoInactiveThreads" then some .noInactiveThreads
  else if tag = "OnlyOneThreadActive" then some .onlyOneThreadActive
  else if tag = "NoActiveThreads" then some .noActiveThreads
  else none

/-- The address and the base of a jump. -/
def jumpTarget? (j : Json) : Option Fault := do
  match ← j.record? ["addr", "base"] with
  | [some addr, some base] => return .illegalJumpTarget (← addr.word?) (← base.word?)
  | _ => none

/-- An opcode and where it stands. -/
def opcode? (j : Json) : Option Fault := do
  match ← j.record? ["opcode", "addr"] with
  | [some opcode, some addr] => return .unknownOpcode (← opcode.byte?) (← addr.word?)
  | _ => none

/-- The fault with a tag and what is saved beside it. -/
def ofMember? (tag : String) (j : Json) : Option Fault :=
  if tag = "IllegalRegisterRead" then j.byte?.map .illegalRegisterRead
  else if tag = "IllegalRegisterWrite" then j.byte?.map .illegalRegisterWrite
  else if tag = "IllegalJumpTarget" then jumpTarget? j
  else if tag = "IllegalBitOffset" then j.byte?.map .illegalBitOffset
  else if tag = "ProgramCounterOverflow" then j.word?.map .programCounterOverflow
  else if tag = "MemoryOutOfBounds" then j.long?.map .memoryOutOfBounds
  else if tag = "UnknownOpcode" then opcode? j
  else
    match j with
    | .null => ofTag? tag
    | _ => none

def ofJson? : Json → Option Fault
  | .text (some tag) => ofTag? tag
  | .object [(some tag, j)] => ofMember? tag j
  | _ => none

def toJson (f : Fault) : Json :=
  match f with
  | .haltInstruction | .noInactiveThreads | .onlyOneThreadActive | .noActiveThreads => Json.ofString f.tag
  | .illegalRegisterRead b | .illegalRegisterWrite b | .illegalBitOffset b => Json.ofMembers [(f.tag, Json.ofByte b)]
  | .programCounterOverflow pc => Json.ofMembers [(f.tag, Json.ofWord pc)]
  | .memoryOutOfBounds position => Json.ofMembers [(f.tag, Json.ofLong position)]
  | .illegalJumpTarget target base =>
    Json.ofMembers [(f.tag, Json.ofMembers [("addr", Json.ofWord target), ("base", Json.ofWord base)])]
  | .unknownOpcode opcode position =>
    Json.ofMembers [(f.tag, Json.ofMembers [("opcode", Json.ofByte opcode), ("addr", Json.ofWord position)])]

/-- The fault that a JSON text spells. -/
def ofText? (text : String) : Option Fault := do ofJson? (← Json.parse text)

/-- The fault as a JSON text. -/
def toText (f : Fault) : String := f.toJson.render

end Fault
end CoopCpu
