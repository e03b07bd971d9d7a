import CoopCpu.Json.Value
/-!
# Json.Shape — reading values of a known shape from a tree

Each reader accepts one shape and nothing else: a number that fits its width, an array of a fixed length, a record.  A
record is written as an object or as the array of its fields in order.  In an object, members that the record does not
have are ignored and the order is free, but no field may come twice.
-/
namespace CoopCpu
namespace Json

def nat? (bound : Nat) : Json → Option Nat
  | .natural n => if n < bound then some n else none
  | _ => none

def byte? (j : Json) : Option UInt8 := (j.nat? UInt8.size).map UInt8.ofNat

def word? (j : Json) : Option UInt16 := (j.nat? UInt16.size).map UInt16.ofNat

def long? (j : Json) : Option UInt64 := (j.nat? UInt64.size).map UInt64.ofNat

def bool? : Json → Option Bool
  | .bool b => some b
  | _ => none

def string? : Json → Option String
  | .text content => content
  | _ => none

/-- `null`, or a value of some shape. -/
def option? {α : Type} (shape : Json → Option α) : Json → Option (Option α)
  | .null => some none
  | j => (shape j).map some

/-- An array whose items all have some shape. -/
def list? {α : Type} (shape : Json → Option α) : Json → Option (List α)
  | .array items => items.mapM shape
  | _ => none

/-- An array of a fixed length whose items all have some shape. -/
def vector? {α : Type} (n : Nat) (shape : Json → Option α) (j : Json) : Option (Vector α n) :=
  match list? shape j with
  | some items => if h : items.length = n then some ⟨items.toArray, by simpa using h⟩ else none
  | none => none

/-- The value of a field in an object, or that there is none; nothing if the field comes twice. -/
def member? (members : List (Quoted × Json)) (field : String) : Option (Option Json) :=
  match members.filter fun m => m.1 == some field with
  | [] => some none
  | [m] => some (some m.2)
  | _ => none

/-- The values of a record's fields, as far as they are given.  An array must give at least the first `least`. -/
def fields? (names : List String) (least : Nat) : Json → Option (List (Option Json))
  | .array items =>
    if least ≤ items.length ∧ items.length ≤ names.length then
      some (items.map some ++ List.replicate (names.length - items.length) none)
    else none
  | .object members => if members.all fun m => m.1.isSome then names.mapM (member? members) else none
  | _ => none

/-- The values of a record's fields, an array giving all of them. -/
def record? (names : List String) (j : Json) : Option (List (Option Json)) := j.fields? names names.length

/-- An object with the given members. -/
def ofMembers (members : List (String × Json)) : Json := .object (members.map fun m => (some m.1, m.2))

def ofString (s : String) : Json := .text (some s)

def ofByte (b : UInt8) : Json := .natural b.toNat

def ofWord (w : UInt16) : Json := .natural w.toNat

def ofLong (n : UInt64) : Json := .natural n.toNat

/-- `null` for nothing. -/
def ofOption {α : Type} (write : α → Json) : Option α → Json
  | none => .null
  | some a => write a

end Json
end CoopCpu
