import CoopCpu.Instruction
import CoopCpu.SetupError
/-!
# Table — which code stands for which operation

An instruction table is a list of entries with distinct codes and distinct operations, each with a layout its operation
admits; the type holds nothing else.  `Table.ofDefinitions` builds one from records and refuses the first record that
does not fit to those before it.  `Table.entry?` looks an entry up by its code and `Table.code?` by its mnemonic.
-/
namespace CoopCpu

/-- A record of a table file. -/
structure Definition where
  code : Byte
  name : String
  widths : List Byte
  deriving DecidableEq, Repr

/-- How many bytes the operands of a record take together. -/
def Definition.operandBytes (d : Definition) : Nat := d.widths.foldr (fun w n => w.toNat + n) 0

/-- A code with its operation and the widths of the operands that follow it in memory. -/
structure Entry where
  code : Byte
  operation : Operation
  layout : Layout
  layout_mem : layout ∈ operation.layouts
  deriving DecidableEq

/-- An instruction table. -/
structure Table where
  entries : List Entry
  codes_nodup : (entries.map Entry.code).Nodup
  operations_nodup : (entries.map Entry.operation).Nodup
  deriving DecidableEq

namespace Entry

/-- The record that an entry comes from. -/
def definition (e : Entry) : Definition := ⟨e.code, e.operation.mnemonic, e.layout.numbers⟩

end Entry

namespace Table

def empty : Table := ⟨[], by decide, by decide⟩

def size (t : Table) : Nat := t.entries.length

/-- The entry of a code. -/
def entry? (t : Table) (code : Byte) : Option Entry := t.entries.find? fun e => e.code == code

/-- The entry of an operation. -/
def entryFor? (t : Table) (op : Operation) : Option Entry := t.entries.find? fun e => e.operation == op

/-- The code of a mnemonic. -/
def code? (t : Table) (name : String) : Option Byte :=
  (t.entries.find? fun e => e.operation.mnemonic == name).map Entry.code

/-- The table with an entry after the others, whose code and operation are new to it. -/
def append (t : Table) (e : Entry) (code_new : e.code ∉ t.entries.map Entry.code)
    (operation_new : e.operation ∉ t.entries.map Entry.operation) : Table where
  entries := t.entries ++ [e]
  codes_nodup := by
    rw [List.map_append, List.nodup_append]
    exact ⟨t.codes_nodup, by simp, fun a ha b hb hab => code_new (by simp at hb; exact hb ▸ hab ▸ ha)⟩
  operations_nodup := by
    rw [List.map_append, List.nodup_append]
    exact ⟨t.operations_nodup, by simp, fun a ha b hb hab => operation_new (by simp at hb; exact hb ▸ hab ▸ ha)⟩

/-- Adds a record, or says what is wrong with it.  Its widths are looked at first, then its name, its code and whether
the name is taken. -/
def add (t : Table) (d : Definition) : Except SetupError Table :=
  if maxOperandBytes < d.operandBytes then .error (.invalidDefinition d.name (.tooWide d.widths))
  else
    match Operation.ofMnemonic? d.name with
    | none => .error (.unknownMnemonic d.name)
    | some op =>
      match accepted : op.layoutOf? d.widths with
      | none => .error (.invalidDefinition d.name (.mismatch d.widths op.layout.numbers))
      | some layout =>
        if code_new : d.code ∉ t.entries.map Entry.code then
          if operation_new : op ∉ t.entries.map Entry.operation then
            .ok (t.append ⟨d.code, op, layout, List.mem_of_find?_eq_some accepted⟩ code_new operation_new)
          else .error (.duplicateMnemonic d.name)
        else .error (.duplicateOpcode d.code)

/-- Adds records one after another, up to the first that does not fit. -/
def addAll (t : Table) : List Definition → Except SetupError Table
  | [] => .ok t
  | d :: rest =>
    match t.add d with
    | .ok t' => t'.addAll rest
    | .error e => .error e

def ofDefinitions (definitions : List Definition) : Except SetupError Table := empty.addAll definitions

/-- The built-in table: the operations are numbered from 0 in their usual order, each with its usual layout. -/
def builtIn : Table where
  entries := Operation.all.mapIdx fun i op => ⟨UInt8.ofNat i, op, op.layout, op.layout_mem_layouts⟩
  codes_nodup := by decide
  operations_nodup := by decide

end Table
end CoopCpu
