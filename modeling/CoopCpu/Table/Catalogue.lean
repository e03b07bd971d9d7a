import CoopCpu.Table
import Mathlib.Init
/-!
# Table.Catalogue — a table as two dictionaries

A catalogue finds what is known of a code in one dictionary and the code of a mnemonic in another.  Both are filled in one
pass over the records, and each record is checked against what the dictionaries hold by then.  Nothing in the type
says that the two belong together.
-/
namespace CoopCpu

/-- What a catalogue knows of a code: the record that came with it, and its operation. -/
structure CatalogueItem where
  definition : Definition
  operation : Operation
  deriving DecidableEq

structure Catalogue where
  byCode : Std.HashMap Byte CatalogueItem
  byName : Std.HashMap String Byte

namespace Catalogue

def empty : Catalogue := ⟨∅, ∅⟩

def size (c : Catalogue) : Nat := c.byCode.size

def item? (c : Catalogue) (code : Byte) : Option CatalogueItem := c.byCode[code]?

def code? (c : Catalogue) (name : String) : Option Byte := c.byName[name]?

/-- Enters a record in both dictionaries, or says what is wrong with it. -/
def add (c : Catalogue) (d : Definition) : Except SetupError Catalogue :=
  if maxOperandBytes < d.operandBytes then .error (.invalidDefinition d.name (.tooWide d.widths))
  else
    match Operation.ofMnemonic? d.name with
    | none => .error (.unknownMnemonic d.name)
    | some op =>
      if op.accepts d.widths = false then .error (.invalidDefinition d.name (.mismatch d.widths op.layout.numbers))
      else if c.byCode.contains d.code then .error (.duplicateOpcode d.code)
      else if c.byName.contains d.name then .error (.duplicateMnemonic d.name)
      else .ok { byCode := c.byCode.insert d.code ⟨d, op⟩, byName := c.byName.insert d.name d.code }

/-- Enters records one after another, up to the first that does not fit. -/
def addAll (c : Catalogue) : List Definition → Except SetupError Catalogue
  | [] => .ok c
  | d :: rest =>
    match c.add d with
    | .ok c' => c'.addAll rest
    | .error e => .error e

def ofDefinitions (definitions : List Definition) : Except SetupError Catalogue := empty.addAll definitions

end Catalogue
end CoopCpu
