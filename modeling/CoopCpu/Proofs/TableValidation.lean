import CoopCpu.Proofs.TableRecords
import CoopCpu.Table.Catalogue
/-!
# Proofs.TableValidation — what a table made of records says

A code has the entry of the record with that code and a name has the code of the record with that name, so the two
lookups are inverse and the order of the records counts for neither (`entry?_perm`, `code?_perm`).  The two dictionaries
of a catalogue say the same as the table after every record that both take up (`Catalogue.Agrees.add`), and neither takes
up a record that the other refuses.
-/
namespace CoopCpu

theorem find?_concat {α β : Type} [BEq β] [LawfulBEq β] [DecidableEq β] {key : α → β} {l : List α} {a : α}
    (new : key a ∉ l.map key) (k : β) :
    (l ++ [a]).find? (fun x => key x == k) = if key a = k then some a else l.find? fun x => key x == k := by
  rw [List.find?_append]
  by_cases h : key a = k
  · have hnone : l.find? (fun x => key x == k) = none := by
      rw [List.find?_eq_none]
      intro x hx hk
      exact new (List.mem_map.2 ⟨x, hx, (eq_of_beq hk).trans h.symm⟩)
    rw [if_pos h, hnone, Option.none_or, List.find?_cons_of_pos (by simpa using h)]
  · rw [if_neg h, List.find?_cons_of_neg (by simpa using h)]
    exact Option.or_none

namespace Table

variable {t t' : Table}

/-! ## What can be looked up -/

theorem entry?_iff_mem_definitions {code : Byte} {e : Entry} :
    t.entry? code = some e ↔ e.definition ∈ t.definitions ∧ e.code = code := by
  rw [entry?_iff, mem_definitions]

theorem isSome_entry?_iff {code : Byte} : (t.entry? code).isSome = true ↔ code ∈ t.entries.map Entry.code := by
  rw [Option.isSome_iff_exists, List.mem_map]
  exact exists_congr fun e => entry?_iff

theorem code?_iff {name : String} {code : Byte} :
    t.code? name = some code ↔ ∃ e, t.entry? code = some e ∧ e.operation.mnemonic = name := by
  unfold code?
  rw [Option.map_eq_some_iff]
  refine exists_congr fun e => ?_
  rw [find?_key_iff t.names_nodup, entry?_iff, and_assoc, and_assoc, and_comm (a := e.code = code)]

theorem isSome_code?_iff {op : Operation} :
    (t.code? op.mnemonic).isSome = true ↔ op ∈ t.entries.map Entry.operation := by
  rw [Option.isSome_iff_exists, List.mem_map]
  constructor
  · rintro ⟨code, h⟩
    obtain ⟨e, he, hname⟩ := code?_iff.1 h
    exact ⟨e, (entry?_iff.1 he).1, Operation.mnemonic_injective hname⟩
  · rintro ⟨e, he, rfl⟩
    exact ⟨e.code, code?_iff.2 ⟨e, entry?_iff.2 ⟨he, rfl⟩, rfl⟩⟩

/-! ## The order of the records -/

section Perm

variable (p : t'.definitions.Perm t.definitions)
include p

theorem size_perm : t'.size = t.size := by rw [size_eq, size_eq, p.length_eq]

theorem entry?_perm : t'.entry? = t.entry? := by
  funext code
  refine Option.ext fun e => ?_
  rw [entry?_iff_mem_definitions, entry?_iff_mem_definitions, p.mem_iff]

theorem code?_perm : t'.code? = t.code? := by
  funext name
  refine Option.ext fun code => ?_
  rw [code?_iff, code?_iff, entry?_perm p]

theorem decode_perm : t'.decode = t.decode := by
  funext m a
  unfold decode
  rw [entry?_perm p]

end Perm

/-! ## One entry more -/

section Append

variable (e : Entry) (code_new : e.code ∉ t.entries.map Entry.code)
  (operation_new : e.operation ∉ t.entries.map Entry.operation)

theorem size_append : (t.append e code_new operation_new).size = t.size + 1 := List.length_append

theorem entry?_append (code : Byte) :
    Table.entry? (t.append e code_new operation_new) code = if e.code = code then some e else t.entry? code :=
  find?_concat code_new code

theorem code?_append (name : String) :
    (t.append e code_new operation_new).code? name =
      if e.operation.mnemonic = name then some e.code else t.code? name := by
  have name_new : e.operation.mnemonic ∉ t.entries.map fun e => e.operation.mnemonic := by
    intro hmem
    obtain ⟨e', he', hname⟩ := List.mem_map.1 hmem
    exact operation_new (List.mem_map.2 ⟨e', he', Operation.mnemonic_injective hname⟩)
  have happend : (t.append e code_new operation_new).code? name = _ :=
    congrArg (Option.map Entry.code) (find?_concat name_new name)
  rw [happend]
  by_cases h : e.operation.mnemonic = name
  · rw [if_pos h, if_pos h]
    rfl
  · rw [if_neg h, if_neg h]
    rfl

end Append
end Table

/-! ## Two dictionaries -/

namespace Catalogue

/-- What a catalogue knows of the code of an entry. -/
def itemOf (e : Entry) : CatalogueItem := ⟨e.definition, e.operation⟩

/-- The catalogue says the same as the table. -/
structure Agrees (c : Catalogue) (t : Table) : Prop where
  size : c.size = t.size
  item? : ∀ code, c.item? code = (t.entry? code).map itemOf
  code? : ∀ name, c.code? name = t.code? name

/-- A catalogue and a table that say the same, or the same error for both. -/
inductive SameOutcome : Except SetupError Catalogue → Except SetupError Table → Prop
  | ok {c : Catalogue} {t : Table} (h : c.Agrees t) : SameOutcome (.ok c) (.ok t)
  | error (e : SetupError) : SameOutcome (.error e) (.error e)

variable {c : Catalogue} {t : Table}

theorem add_of_unknown (c : Catalogue) {d : Definition} (unknown : ¬ d.Known) : c.add d = .error d.flaw := by
  unfold add Definition.flaw
  by_cases wide : maxOperandBytes < d.operandBytes
  · rw [if_pos wide, if_pos wide]
  rw [if_neg wide, if_neg wide]
  cases hop : Operation.ofMnemonic? d.name with
  | none => rfl
  | some op =>
    cases accepts : op.accepts d.widths with
    | false => exact if_pos accepts
    | true => exact absurd ⟨op, hop, accepts⟩ unknown

theorem add_definition (c : Catalogue) (e : Entry) : c.add e.definition =
    if c.byCode.contains e.code then .error (.duplicateOpcode e.code)
    else if c.byName.contains e.operation.mnemonic then .error (.duplicateMnemonic e.operation.mnemonic)
    else .ok ⟨c.byCode.insert e.code (itemOf e), c.byName.insert e.operation.mnemonic e.code⟩ := by
  have accepts : ¬ e.operation.accepts e.definition.widths = false := by
    unfold Operation.accepts
    rw [e.layoutOf?_definition]
    exact Bool.noConfusion
  unfold add
  rw [if_neg (Nat.not_lt_of_le e.operandBytes_definition), e.ofMnemonic?_definition]
  exact if_neg accepts

theorem agrees_empty : empty.Agrees Table.empty :=
  ⟨rfl, fun _ => Std.HashMap.getElem?_empty, fun _ => Std.HashMap.getElem?_empty⟩

namespace Agrees

theorem contains_byCode (h : c.Agrees t) (code : Byte) :
    c.byCode.contains code = true ↔ code ∈ t.entries.map Entry.code := by
  have hitem : c.byCode.contains code = (c.item? code).isSome := Std.HashMap.contains_eq_isSome_getElem?
  rw [hitem, h.item?, Option.isSome_map, Table.isSome_entry?_iff]

theorem contains_byName (h : c.Agrees t) (op : Operation) :
    c.byName.contains op.mnemonic = true ↔ op ∈ t.entries.map Entry.operation := by
  have hcode : c.byName.contains op.mnemonic = (c.code? op.mnemonic).isSome := Std.HashMap.contains_eq_isSome_getElem?
  rw [hcode, h.code?, Table.isSome_code?_iff]

theorem insert (h : c.Agrees t) (e : Entry) (code_new : e.code ∉ t.entries.map Entry.code)
    (operation_new : e.operation ∉ t.entries.map Entry.operation) :
    Agrees ⟨c.byCode.insert e.code (itemOf e), c.byName.insert e.operation.mnemonic e.code⟩
      (t.append e code_new operation_new) where
  size := by
    have hnew : ¬ e.code ∈ c.byCode := fun hmem => code_new ((h.contains_byCode e.code).1 hmem)
    have hsize : c.byCode.size = t.size := h.size
    show (c.byCode.insert e.code (itemOf e)).size = _
    rw [Std.HashMap.size_insert, if_neg hnew, hsize, Table.size_append]
  item? := fun code => by
    have hitem : c.byCode[code]? = (t.entry? code).map itemOf := h.item? code
    show (c.byCode.insert e.code (itemOf e))[code]? = _
    rw [Std.HashMap.getElem?_insert, Table.entry?_append, hitem]
    by_cases hcode : e.code = code
    · rw [if_pos (beq_iff_eq.2 hcode), if_pos hcode]
      rfl
    · rw [if_neg fun hbeq => hcode (beq_iff_eq.1 hbeq), if_neg hcode]
  code? := fun name => by
    have hcode : c.byName[name]? = t.code? name := h.code? name
    show (c.byName.insert e.operation.mnemonic e.code)[name]? = _
    rw [Std.HashMap.getElem?_insert, Table.code?_append, hcode]
    by_cases hname : e.operation.mnemonic = name
    · rw [if_pos (beq_iff_eq.2 hname), if_pos hname]
    · rw [if_neg fun hbeq => hname (beq_iff_eq.1 hbeq), if_neg hname]

/-- **A record is taken up by both or refused by both**, with the same error. -/
theorem add (h : c.Agrees t) (d : Definition) : SameOutcome (c.add d) (t.add d) := by
  by_cases known : d.Known
  · obtain ⟨e, rfl⟩ := Definition.known_iff.1 known
    rw [Table.add_definition, Catalogue.add_definition]
    by_cases code_new : e.code ∉ t.entries.map Entry.code
    · rw [dif_pos code_new, if_neg fun hc => code_new ((h.contains_byCode e.code).1 hc)]
      by_cases operation_new : e.operation ∉ t.entries.map Entry.operation
      · rw [dif_pos operation_new, if_neg fun hc => operation_new ((h.contains_byName e.operation).1 hc)]
        exact .ok (h.insert e code_new operation_new)
      · rw [dif_neg operation_new, if_pos ((h.contains_byName e.operation).2 (Classical.not_not.1 operation_new))]
        exact .error _
    · rw [dif_neg code_new, if_pos ((h.contains_byCode e.code).2 (Classical.not_not.1 code_new))]
      exact .error _
  · rw [Table.add_of_unknown t known, Catalogue.add_of_unknown c known]
    exact .error _

theorem addAll : ∀ {ds : List Definition} {c : Catalogue} {t : Table}, c.Agrees t →
    SameOutcome (c.addAll ds) (t.addAll ds)
  | [], _, _, h => .ok h
  | d :: rest, c, t, h => by
    have hadd := h.add d
    unfold Catalogue.addAll Table.addAll
    generalize c.add d = first at hadd
    generalize t.add d = second at hadd
    cases hadd with
    | ok h' => exact addAll h'
    | error e => exact .error e

end Agrees

/-- **The two dictionaries say what the table says**, whatever the records are. -/
theorem sameOutcome_ofDefinitions (ds : List Definition) : SameOutcome (ofDefinitions ds) (Table.ofDefinitions ds) :=
  agrees_empty.addAll

end Catalogue

namespace Table

open Definition (WellFormed)

/-- **A list of records makes a table exactly if it is well-formed.**  The codes of the records and no others have entries,
each with the name and the widths of the record with that code and with the operation of its name, and a name has the
code whose entry has that name.  The order of the records decides neither whether there is a table nor what is looked up
or decoded with it.  Two dictionaries filled in one pass, one by code and one by name, come to the same error or say the
same as the table. -/
theorem ofDefinitions_wellFormed (ds : List Definition) :
    ((∃ t, ofDefinitions ds = .ok t) ↔ WellFormed ds) ∧
    (∀ t, ofDefinitions ds = .ok t →
      t.size = ds.length ∧
      (∀ code, (t.entry? code).isSome = true ↔ code ∈ ds.map Definition.code) ∧
      (∀ code e, t.entry? code = some e → e.definition ∈ ds ∧ e.definition.code = code ∧
        Operation.ofMnemonic? e.definition.name = some e.operation) ∧
      ∀ code name, t.code? name = some code ↔ ∃ e, t.entry? code = some e ∧ e.operation.mnemonic = name) ∧
    (∀ ds', ds'.Perm ds →
      ((∃ t', ofDefinitions ds' = .ok t') ↔ ∃ t, ofDefinitions ds = .ok t) ∧
      ∀ t t', ofDefinitions ds = .ok t → ofDefinitions ds' = .ok t' →
        t'.size = t.size ∧ t'.entry? = t.entry? ∧ t'.code? = t.code? ∧ t'.decode = t.decode) ∧
    Catalogue.SameOutcome (Catalogue.ofDefinitions ds) (ofDefinitions ds) := by
  refine ⟨accepted_iff_wellFormed, fun t accepted => ?_, fun ds' p => ⟨?_, fun t t' accepted accepted' => ?_⟩,
    Catalogue.sameOutcome_ofDefinitions ds⟩
  · obtain rfl := ofDefinitions_eq_ok_iff.1 accepted
    refine ⟨t.size_eq, fun code => ?_, fun code e he => ?_, fun code name => code?_iff⟩
    · rw [isSome_entry?_iff, definitions, List.map_map]
      rfl
    · obtain ⟨hmem, hcode⟩ := entry?_iff_mem_definitions.1 he
      exact ⟨hmem, hcode, e.ofMnemonic?_definition⟩
  · rw [accepted_iff_wellFormed, accepted_iff_wellFormed]
    exact ⟨fun h => h.perm p.symm, fun h => h.perm p⟩
  · obtain rfl := ofDefinitions_eq_ok_iff.1 accepted
    obtain rfl := ofDefinitions_eq_ok_iff.1 accepted'
    exact ⟨size_perm p, entry?_perm p, code?_perm p, decode_perm p⟩

/-- Three records, not in the order of their codes. -/
def fewDefinitions : List Definition := [⟨7, "JUMP", [2]⟩, ⟨200, "MBTS", [2, 1]⟩, ⟨0, "HALT", []⟩]

/-- The records make a table in the other order too, and no table together with another one of the same code. -/
theorem fewDefinitions_wellFormed :
    (∃ t, ofDefinitions fewDefinitions = .ok t) ∧
    (∃ t', ofDefinitions fewDefinitions.reverse = .ok t' ∧ t'.size = 3 ∧ t'.code? "MBTS" = some 200) ∧
    ¬ ∃ t, ofDefinitions (fewDefinitions ++ [⟨7, "STOP", []⟩]) = .ok t := by
  obtain ⟨t, accepted⟩ : ∃ t, ofDefinitions fewDefinitions = .ok t := ⟨_, rfl⟩
  obtain ⟨-, lookups, order, -⟩ := ofDefinitions_wellFormed fewDefinitions
  obtain ⟨accepted_iff, same⟩ := order fewDefinitions.reverse (List.reverse_perm _)
  obtain ⟨t', accepted'⟩ := accepted_iff.2 ⟨t, accepted⟩
  obtain ⟨hsize, hentry, hcode, -⟩ := same t t' accepted accepted'
  obtain ⟨hlength, present, carries, inverse⟩ := lookups t accepted
  refine ⟨⟨t, accepted⟩, ⟨t', accepted', hsize.trans hlength, ?_⟩, fun h => ?_⟩
  · obtain ⟨e, he⟩ := Option.isSome_iff_exists.1 ((present 200).2 (by decide))
    obtain ⟨hmem, hfound, -⟩ := carries 200 e he
    have only : ∀ d ∈ fewDefinitions, d.code = 200 → d.name = "MBTS" := by decide
    rw [hcode]
    exact (inverse 200 "MBTS").2 ⟨e, he, only _ hmem hfound⟩
  · have hwellFormed := (ofDefinitions_wellFormed (fewDefinitions ++ [⟨7, "STOP", []⟩])).1.1 h
    exact absurd hwellFormed.codes (by decide)

end Table
end CoopCpu
