import CoopCpu.Proofs.TableValidation
/-!
# Proofs.TableRefusal — which record of a list is reported, and for what

A record is refused for the first of five things that are wrong with it (`Definition.Refused`), two of which depend on the
records before it.  Records are taken up one after another, so a list that makes no table is refused for the first record
that does not fit to those before it, and those after it do not matter (`Table.rejected_for_first_bad`).
-/
namespace CoopCpu
namespace Definition

/-- What is wrong with a record after others that make a table.  Its widths are too many bytes for an instruction; or its
name is that of no operation; or the operation of its name takes other widths; or its code is taken; or its name is.  The
things before it in this order are all in order. -/
inductive Refused (before : List Definition) (d : Definition) : SetupError → Prop
  | tooWide (wide : maxOperandBytes < d.operandBytes) : Refused before d (.invalidDefinition d.name (.tooWide d.widths))
  | unknownName (narrow : d.operandBytes ≤ maxOperandBytes) (unknown : ∀ op : Operation, op.mnemonic ≠ d.name) :
    Refused before d (.unknownMnemonic d.name)
  | otherWidths (narrow : d.operandBytes ≤ maxOperandBytes) {op : Operation} (named : op.mnemonic = d.name)
    (other : op.accepts d.widths = false) :
    Refused before d (.invalidDefinition d.name (.mismatch d.widths op.layout.numbers))
  | takenCode (known : d.Known) (taken : d.code ∈ before.map code) : Refused before d (.duplicateOpcode d.code)
  | takenName (known : d.Known) (free : d.code ∉ before.map code) (taken : d.name ∈ before.map name) :
    Refused before d (.duplicateMnemonic d.name)

variable {before ds ds' : List Definition} {d : Definition} {e : SetupError}

theorem Known.operandBytes_le (known : d.Known) : d.operandBytes ≤ maxOperandBytes := by
  obtain ⟨e, rfl⟩ := known_iff.1 known
  exact e.operandBytes_definition

/-- **A record that is not known is refused for its flaw**, whatever comes before it. -/
theorem refused_iff_of_unknown (unknown : ¬ d.Known) : d.Refused before e ↔ e = d.flaw := by
  unfold flaw
  by_cases wide : maxOperandBytes < d.operandBytes
  · rw [if_pos wide]
    constructor
    · intro h
      cases h with
      | tooWide => rfl
      | unknownName narrow | otherWidths narrow => exact absurd wide (Nat.not_lt_of_le narrow)
      | takenCode known | takenName known => exact absurd known unknown
    · rintro rfl
      exact .tooWide wide
  rw [if_neg wide]
  cases hop : Operation.ofMnemonic? d.name with
  | none =>
    have nameless : ∀ op : Operation, op.mnemonic ≠ d.name := fun op named => by
      rw [Operation.ofMnemonic?_iff.2 named] at hop
      cases hop
    constructor
    · intro h
      cases h with
      | tooWide wide' => exact absurd wide' wide
      | unknownName => rfl
      | otherWidths _ named => exact absurd named (nameless _)
      | takenCode known | takenName known => exact absurd known unknown
    · rintro rfl
      exact .unknownName (Nat.le_of_not_lt wide) nameless
  | some op =>
    have named := Operation.ofMnemonic?_iff.1 hop
    constructor
    · intro h
      cases h with
      | tooWide wide' => exact absurd wide' wide
      | unknownName _ nameless => exact absurd named (nameless op)
      | otherWidths _ named' => rw [Operation.mnemonic_injective (named'.trans named.symm)]
      | takenCode known | takenName known => exact absurd known unknown
    · rintro rfl
      exact .otherWidths (Nat.le_of_not_lt wide) named (Bool.eq_false_iff.2 fun accepts => unknown ⟨op, hop, accepts⟩)

/-- **A known record is refused only for its code or its name.** -/
theorem refused_iff_of_known (known : d.Known) : d.Refused before e ↔
    (d.code ∈ before.map code ∧ e = .duplicateOpcode d.code) ∨
    (d.code ∉ before.map code ∧ d.name ∈ before.map name ∧ e = .duplicateMnemonic d.name) := by
  constructor
  · intro h
    cases h with
    | tooWide wide => exact absurd wide (Nat.not_lt_of_le known.operandBytes_le)
    | unknownName _ nameless =>
      obtain ⟨op, hop, -⟩ := known
      exact absurd (Operation.ofMnemonic?_iff.1 hop) (nameless op)
    | otherWidths _ named other =>
      obtain ⟨op, hop, accepts⟩ := known
      obtain rfl := Operation.mnemonic_injective (named.trans (Operation.ofMnemonic?_iff.1 hop).symm)
      exact absurd accepts (Bool.eq_false_iff.1 other)
    | takenCode _ taken => exact .inl ⟨taken, rfl⟩
    | takenName _ free taken => exact .inr ⟨free, taken, rfl⟩
  · rintro (⟨taken, rfl⟩ | ⟨free, taken, rfl⟩)
    · exact .takenCode known taken
    · exact .takenName known free taken

theorem WellFormed.sublist (h : WellFormed ds) (sub : ds'.Sublist ds) : WellFormed ds' where
  known := fun d hd => h.known d (sub.mem hd)
  codes := (sub.map code).nodup h.codes
  names := (sub.map name).nodup h.names

end Definition

namespace Table

variable {t t' : Table} {ds before : List Definition} {d : Definition} {e : SetupError}

theorem codes_definitions (t : Table) : t.definitions.map Definition.code = t.entries.map Entry.code := by
  unfold definitions
  rw [List.map_map]
  rfl

theorem mem_names_definitions {op : Operation} :
    op.mnemonic ∈ t.definitions.map Definition.name ↔ op ∈ t.entries.map Entry.operation := by
  have hnames : t.definitions.map Definition.name = (t.entries.map Entry.operation).map Operation.mnemonic := by
    unfold definitions
    rw [List.map_map, List.map_map]
    rfl
  rw [hnames, List.mem_map_of_injective Operation.mnemonic_injective]

/-- **A record is refused for the first thing that is wrong with it**, and only if something is. -/
theorem add_eq_error_iff : t.add d = .error e ↔ d.Refused t.definitions e := by
  by_cases known : d.Known
  · rw [Definition.refused_iff_of_known known]
    obtain ⟨entry, rfl⟩ := Definition.known_iff.1 known
    have hname : entry.definition.name = entry.operation.mnemonic := rfl
    have hcode : entry.definition.code = entry.code := rfl
    rw [add_definition, codes_definitions, hname, hcode, mem_names_definitions]
    by_cases code_new : entry.code ∉ t.entries.map Entry.code
    · by_cases operation_new : entry.operation ∉ t.entries.map Entry.operation
      · simp [code_new, operation_new]
      · simp [code_new, Classical.not_not.1 operation_new, eq_comm]
    · simp [Classical.not_not.1 code_new, eq_comm]
  · rw [add_of_unknown t known, Definition.refused_iff_of_unknown known, Except.error.injEq, eq_comm]

theorem addAll_cons (t : Table) (d : Definition) (rest : List Definition) :
    t.addAll (d :: rest) = t.add d >>= fun t' => t'.addAll rest := by
  rw [addAll]
  cases t.add d <;> rfl

theorem addAll_append (rest : List Definition) : ∀ (before : List Definition) (t : Table),
    t.addAll (before ++ rest) = t.addAll before >>= fun t' => t'.addAll rest
  | [], _ => rfl
  | d :: before, t => by
    rw [List.cons_append, addAll_cons, addAll_cons]
    cases t.add d with
    | error flaw => rfl
    | ok t' => exact addAll_append rest before t'

theorem addAll_of_refused (taken : t.addAll before = .ok t') (refused : t'.add d = .error e) (after : List Definition) :
    t.addAll (before ++ d :: after) = .error e := by
  rw [addAll_append, taken]
  show t'.addAll (d :: after) = .error e
  rw [addAll_cons, refused]
  rfl

/-- **Records that make no table have a first one that is refused.** -/
theorem exists_refused_of_addAll : ∀ {ds : List Definition} {t : Table}, t.addAll ds = .error e →
    ∃ before d after t', ds = before ++ d :: after ∧ t.addAll before = .ok t' ∧ t'.add d = .error e
  | d :: rest, t, h => by
    rw [addAll_cons] at h
    cases hadd : t.add d with
    | error flaw =>
      rw [hadd] at h
      exact ⟨[], d, rest, t, rfl, rfl, hadd.trans h⟩
    | ok t₁ =>
      rw [hadd] at h
      obtain ⟨before, d', after, t', rfl, taken, refused⟩ := exists_refused_of_addAll h
      refine ⟨d :: before, d', after, t', rfl, ?_, refused⟩
      rw [addAll_cons, hadd]
      exact taken

theorem accepted_of_prefix {first : List Definition} (accepted : ∃ t, ofDefinitions ds = .ok t) (h : first <+: ds) :
    ∃ t, ofDefinitions first = .ok t :=
  accepted_iff_wellFormed.2 ((accepted_iff_wellFormed.1 accepted).sublist h.sublist)

/-- **A list that makes no table is refused for its first bad record**, the one up to which and no further the records make
a table, whatever comes after it; and of what is wrong with that record the first thing is reported.  Two dictionaries
filled in one pass come to the same error. -/
theorem rejected_for_first_bad (rejected : ofDefinitions ds = .error e) :
    ∃ before d after, ds = before ++ d :: after ∧
      (∀ first, first <+: ds → ((∃ t, ofDefinitions first = .ok t) ↔ first.length ≤ before.length)) ∧
      (∀ e', d.Refused before e' ↔ e' = e) ∧
      ∀ after', ofDefinitions (before ++ d :: after') = .error e ∧
        Catalogue.ofDefinitions (before ++ d :: after') = .error e := by
  obtain ⟨before, d, after, t', rfl, taken, refused⟩ := exists_refused_of_addAll rejected
  have hbefore : t'.definitions = before := ofDefinitions_eq_ok_iff.1 taken
  have reported (after' : List Definition) : ofDefinitions (before ++ d :: after') = .error e :=
    addAll_of_refused taken refused after'
  refine ⟨before, d, after, rfl, fun first hfirst => ⟨fun accepted => ?_, fun short => ?_⟩, fun e' => ?_, fun after' =>
    ⟨reported after', ?_⟩⟩
  · refine Nat.le_of_not_lt fun long => ?_
    have hprefix : before ++ [d] <+: first := by
      refine List.prefix_of_prefix_length_le ?_ hfirst (by rw [List.length_append]; exact long)
      exact ⟨after, by simp⟩
    obtain ⟨t, accepted'⟩ := accepted_of_prefix accepted hprefix
    rw [reported []] at accepted'
    cases accepted'
  · have hprefix : first <+: before := List.prefix_of_prefix_length_le hfirst (List.prefix_append _ _) short
    exact accepted_of_prefix ⟨t', taken⟩ hprefix
  · rw [← hbefore, ← add_eq_error_iff, refused, Except.error.injEq, eq_comm]
  · have same := Catalogue.sameOutcome_ofDefinitions (before ++ d :: after')
    rw [reported after'] at same
    generalize Catalogue.ofDefinitions (before ++ d :: after') = outcome at same ⊢
    cases same
    rfl

/-- A record, then one with four things wrong with it, then one whose name is taken. -/
def manyFlaws : List Definition := [⟨7, "JUMP", [2]⟩, ⟨7, "NOP", [2, 2]⟩, ⟨9, "JUMP", [2]⟩]

theorem manyFlaws_rejected :
    ofDefinitions manyFlaws = .error (.invalidDefinition "NOP" (.tooWide [2, 2])) ∧
    ∀ after, ofDefinitions (⟨7, "JUMP", [2]⟩ :: ⟨7, "NOP", [2, 2]⟩ :: after) =
      .error (.invalidDefinition "NOP" (.tooWide [2, 2])) := by
  have rejected : ofDefinitions manyFlaws = .error (.invalidDefinition "NOP" (.tooWide [2, 2])) := rfl
  obtain ⟨before, d, after, split, accepted_iff, -, reported⟩ := rejected_for_first_bad rejected
  have one : 1 ≤ before.length := (accepted_iff (manyFlaws.take 1) (List.take_prefix 1 _)).1 ⟨_, rfl⟩
  have two : ¬ 2 ≤ before.length := fun long => by
    obtain ⟨t, accepted⟩ := (accepted_iff (manyFlaws.take 2) (List.take_prefix 2 _)).2 long
    cases accepted
  obtain ⟨first, rfl⟩ := List.length_eq_one_iff.1 (Nat.le_antisymm (Nat.le_of_not_lt two) one)
  cases split
  exact ⟨rejected, fun after' => (reported after').1⟩

end Table
end CoopCpu
