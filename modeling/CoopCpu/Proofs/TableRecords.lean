import CoopCpu.Proofs.Encoding
import Mathlib.Data.List.Nodup
import Mathlib.Data.Set.List
/-!
# Proofs.TableRecords — which lists of records make a table

A list of records makes a table exactly if each record is of a known operation that takes its widths, and no code and no
name comes twice (`accepted_iff_wellFormed`).  The table then consists of these records: what `ofDefinitions` makes of a
list is the one table whose `definitions` are the list (`ofDefinitions_eq_ok_iff`).
-/
namespace CoopCpu

/-! ## What a record says of its entry -/

namespace Operation

theorem ofMnemonic?_iff {name : String} {op : Operation} : ofMnemonic? name = some op ↔ op.mnemonic = name := by
  have hnodup : (all.map mnemonic).Nodup := by decide
  unfold ofMnemonic?
  rw [find?_key_iff hnodup]
  exact and_iff_right (mem_all op)

theorem ofMnemonic?_mnemonic (op : Operation) : ofMnemonic? op.mnemonic = some op := ofMnemonic?_iff.2 rfl

theorem mnemonic_injective : Function.Injective mnemonic := fun op op' h => by
  have := ofMnemonic?_mnemonic op
  rw [h, ofMnemonic?_mnemonic] at this
  exact (Option.some.inj this).symm

theorem layoutOf?_iff {op : Operation} {widths : List Byte} {l : Layout} :
    op.layoutOf? widths = some l ↔ l ∈ op.layouts ∧ l.numbers = widths := by
  have hnodup : (op.layouts.map Layout.numbers).Nodup := by cases op <;> decide
  exact find?_key_iff hnodup

end Operation

theorem Width.number_injective : Function.Injective Width.number := by
  intro w w'
  cases w <;> cases w' <;> decide

theorem Layout.numbers_injective : Function.Injective Layout.numbers := List.map_injective_iff.2 Width.number_injective

theorem Layout.operandBytes_numbers (code : Byte) (name : String) (l : Layout) :
    (Definition.mk code name l.numbers).operandBytes = l.size := by
  have hsize (w : Width) : w.number.toNat = w.size := by cases w <;> rfl
  unfold Definition.operandBytes Layout.numbers Layout.size
  rw [List.foldr_map]
  simp only [hsize]

namespace Entry

theorem operandBytes_definition (e : Entry) : e.definition.operandBytes ≤ maxOperandBytes := by
  have hbytes : e.definition.operandBytes = e.layout.size := e.layout.operandBytes_numbers _ _
  rw [hbytes]
  exact Operation.size_le_of_mem_layouts e.layout_mem

theorem ofMnemonic?_definition (e : Entry) : Operation.ofMnemonic? e.definition.name = some e.operation :=
  e.operation.ofMnemonic?_mnemonic

theorem layoutOf?_definition (e : Entry) : e.operation.layoutOf? e.definition.widths = some e.layout :=
  Operation.layoutOf?_iff.2 ⟨e.layout_mem, rfl⟩

/-- **An entry is what its record says.** -/
theorem definition_injective : Function.Injective definition := by
  rintro ⟨code, op, layout, hlayout⟩ ⟨code', op', layout', hlayout'⟩ h
  obtain rfl : code = code' := congrArg Definition.code h
  obtain rfl : op = op' := Operation.mnemonic_injective (congrArg Definition.name h)
  obtain rfl : layout = layout' := Layout.numbers_injective (congrArg Definition.widths h)
  rfl

end Entry

/-! ## Well-formed lists of records -/

namespace Definition

/-- The record is of a known operation that takes its widths. -/
def Known (d : Definition) : Prop := ∃ op, Operation.ofMnemonic? d.name = some op ∧ op.accepts d.widths = true

theorem known_iff {d : Definition} : d.Known ↔ ∃ e : Entry, e.definition = d := by
  constructor
  · rintro ⟨op, hop, accepts⟩
    obtain ⟨layout, hlayout⟩ := Option.isSome_iff_exists.1 accepts
    obtain ⟨hmem, hwidths⟩ := Operation.layoutOf?_iff.1 hlayout
    refine ⟨⟨d.code, op, layout, hmem⟩, ?_⟩
    unfold Entry.definition
    rw [Operation.ofMnemonic?_iff.1 hop, hwidths]
  · rintro ⟨e, rfl⟩
    exact ⟨e.operation, e.ofMnemonic?_definition, Option.isSome_iff_exists.2 ⟨e.layout, e.layoutOf?_definition⟩⟩

/-- What is wrong with a record that is not known. -/
def flaw (d : Definition) : SetupError :=
  if maxOperandBytes < d.operandBytes then .invalidDefinition d.name (.tooWide d.widths)
  else
    match Operation.ofMnemonic? d.name with
    | none => .unknownMnemonic d.name
    | some op => .invalidDefinition d.name (.mismatch d.widths op.layout.numbers)

/-- Every record is known, and no code and no name comes twice. -/
structure WellFormed (ds : List Definition) : Prop where
  known : ∀ d ∈ ds, d.Known
  codes : (ds.map code).Nodup
  names : (ds.map name).Nodup

theorem WellFormed.perm {ds ds' : List Definition} (h : WellFormed ds) (p : ds'.Perm ds) : WellFormed ds' where
  known := fun d hd => h.known d (p.mem_iff.1 hd)
  codes := (p.map code).nodup_iff.2 h.codes
  names := (p.map name).nodup_iff.2 h.names

end Definition

namespace Table

open Definition (WellFormed)

variable {t t' : Table} {ds : List Definition}

/-- The records that the entries come from. -/
def definitions (t : Table) : List Definition := t.entries.map Entry.definition

theorem mem_definitions {e : Entry} : e.definition ∈ t.definitions ↔ e ∈ t.entries :=
  List.mem_map_of_injective Entry.definition_injective

theorem size_eq (t : Table) : t.size = t.definitions.length := (List.length_map _).symm

theorem eq_of_definitions (h : t.definitions = t'.definitions) : t = t' := by
  have hentries : t.entries = t'.entries := List.map_injective_iff.2 Entry.definition_injective h
  cases t
  cases t'
  cases hentries
  rfl

theorem names_nodup (t : Table) : (t.entries.map fun e => e.operation.mnemonic).Nodup := by
  have hnames := t.operations_nodup.map Operation.mnemonic_injective
  rw [List.map_map] at hnames
  exact hnames

theorem wellFormed_definitions (t : Table) : WellFormed t.definitions where
  known := fun d hd => by
    obtain ⟨e, -, he⟩ := List.mem_map.1 hd
    exact Definition.known_iff.2 ⟨e, he⟩
  codes := by
    unfold definitions
    rw [List.map_map]
    exact t.codes_nodup
  names := by
    unfold definitions
    rw [List.map_map]
    exact t.names_nodup

theorem exists_of_wellFormed (h : WellFormed ds) : ∃ t : Table, t.definitions = ds := by
  have hrange : ds ∈ Set.range (List.map Entry.definition) := by
    rw [Set.range_list_map]
    exact fun d hd => Definition.known_iff.1 (h.known d hd)
  obtain ⟨entries, rfl⟩ := hrange
  have hnames : ((entries.map Entry.operation).map Operation.mnemonic).Nodup := by
    have := h.names
    rw [List.map_map] at this ⊢
    exact this
  refine ⟨⟨entries, ?_, hnames.of_map⟩, rfl⟩
  have := h.codes
  rw [List.map_map] at this
  exact this

/-! ## Records taken up one after another -/

theorem add_of_unknown (t : Table) {d : Definition} (unknown : ¬ d.Known) : t.add d = .error d.flaw := by
  unfold add Definition.flaw
  by_cases wide : maxOperandBytes < d.operandBytes
  · rw [if_pos wide, if_pos wide]
  rw [if_neg wide, if_neg wide]
  cases hop : Operation.ofMnemonic? d.name with
  | none => rfl
  | some op =>
    simp only
    split
    · rfl
    · next layout hlayout => exact absurd ⟨op, hop, Option.isSome_iff_exists.2 ⟨layout, hlayout⟩⟩ unknown

/-- The record of an entry can be refused only for its code or its name. -/
theorem add_definition (t : Table) (e : Entry) : t.add e.definition =
    if code_new : e.code ∉ t.entries.map Entry.code then
      if operation_new : e.operation ∉ t.entries.map Entry.operation then .ok (t.append e code_new operation_new)
      else .error (.duplicateMnemonic e.operation.mnemonic)
    else .error (.duplicateOpcode e.code) := by
  unfold add
  rw [if_neg (Nat.not_lt_of_le e.operandBytes_definition)]
  simp only [e.ofMnemonic?_definition]
  split
  · next h =>
    rw [e.layoutOf?_definition] at h
    cases h
  · next layout h =>
    obtain rfl : e.layout = layout := Option.some.inj (e.layoutOf?_definition.symm.trans h)
    rfl

theorem definitions_add {d : Definition} (h : t.add d = .ok t') : t'.definitions = t.definitions ++ [d] := by
  by_cases known : d.Known
  · obtain ⟨e, rfl⟩ := Definition.known_iff.1 known
    rw [add_definition] at h
    by_cases code_new : e.code ∉ t.entries.map Entry.code
    · by_cases operation_new : e.operation ∉ t.entries.map Entry.operation
      · rw [dif_pos code_new, dif_pos operation_new] at h
        cases h
        exact List.map_append
      · rw [dif_pos code_new, dif_neg operation_new] at h
        cases h
    · rw [dif_neg code_new] at h
      cases h
  · rw [add_of_unknown t known] at h
    cases h

theorem exists_add {d : Definition} {rest : List Definition} (h : t'.definitions = t.definitions ++ d :: rest) :
    ∃ t₁, t.add d = .ok t₁ ∧ t₁.definitions = t.definitions ++ [d] := by
  obtain ⟨before, after, hentries, hbefore, hafter⟩ := List.map_eq_append_iff.1 h
  obtain rfl : before = t.entries := List.map_injective_iff.2 Entry.definition_injective hbefore
  obtain ⟨e, es, rfl, rfl, -⟩ := List.map_eq_cons_iff.1 hafter
  have new {β : Type} {key : Entry → β} (hnodup : (t'.entries.map key).Nodup) : key e ∉ t.entries.map key := by
    rw [hentries, List.map_append, List.map_cons] at hnodup
    exact fun hmem => (List.nodup_append.1 hnodup).2.2 _ hmem _ List.mem_cons_self rfl
  have hadd : t.add e.definition = .ok (t.append e (new t'.codes_nodup) (new t'.operations_nodup)) := by
    rw [add_definition, dif_pos (new t'.codes_nodup), dif_pos (new t'.operations_nodup)]
  exact ⟨_, hadd, definitions_add hadd⟩

/-- **Taking records up adds them to those of the table**, in their order, whenever it succeeds, and it succeeds whenever
there is such a table. -/
theorem addAll_eq_ok_iff : ∀ {ds : List Definition} {t : Table},
    t.addAll ds = .ok t' ↔ t'.definitions = t.definitions ++ ds
  | [], t => by
    rw [List.append_nil]
    constructor
    · intro h
      cases h
      rfl
    · intro h
      rw [eq_of_definitions h]
      rfl
  | d :: rest, t => by
    -- the table of the records before is any table, so the rest goes on from the one with `d` taken up
    have hcons : t.definitions ++ d :: rest = (t.definitions ++ [d]) ++ rest := by simp
    unfold addAll
    constructor
    · intro h
      cases hadd : t.add d with
      | error e =>
        rw [hadd] at h
        cases h
      | ok t₁ =>
        rw [hadd] at h
        rw [addAll_eq_ok_iff.1 h, definitions_add hadd, hcons]
    · intro h
      obtain ⟨t₁, hadd, hdefinitions⟩ := exists_add h
      rw [hadd]
      refine addAll_eq_ok_iff.2 ?_
      rw [hdefinitions, h, hcons]

/-- **A list of records makes the table that consists of them**, if there is one. -/
theorem ofDefinitions_eq_ok_iff : ofDefinitions ds = .ok t ↔ t.definitions = ds := addAll_eq_ok_iff

theorem accepted_iff_wellFormed : (∃ t, ofDefinitions ds = .ok t) ↔ WellFormed ds := by
  constructor
  · rintro ⟨t, h⟩
    rw [← ofDefinitions_eq_ok_iff.1 h]
    exact t.wellFormed_definitions
  · intro h
    obtain ⟨t, ht⟩ := exists_of_wellFormed h
    exact ⟨t, ofDefinitions_eq_ok_iff.2 ht⟩

end Table
end CoopCpu
