import CoopCpu.Proofs.JsonTree
import CoopCpu.Saved.Snapshot
/-!
# Proofs.SavedState — a saved machine goes on as if nothing had happened

Each typed reader takes back what its writer wrote: numbers that fit, lists item by item, and records by the names of
their fields (`record?_ofMembers`), as long as no two fields share a name.  From there it is one lemma for each type of
the state up to the snapshot.  A machine is its snapshot, its table and its devices, so loading what was saved gives the
machine back (`Machine.save_load`).
-/
namespace CoopCpu
namespace Json

/-! ## Numbers and texts -/

@[simp]
theorem byte?_ofByte (b : UInt8) : (ofByte b).byte? = some b := by
  have := b.toNat_lt
  simp [byte?, ofByte, nat?, UInt8.size, this]

@[simp]
theorem word?_ofWord (w : UInt16) : (ofWord w).word? = some w := by
  have := w.toNat_lt
  simp [word?, ofWord, nat?, UInt16.size, this]

@[simp]
theorem long?_ofLong (n : UInt64) : (ofLong n).long? = some n := by
  have := n.toNat_lt
  simp [long?, ofLong, nat?, UInt64.size, this]

/-! ## Lists and options -/

theorem mapM_map {α β γ : Type} {write : α → β} {read : β → Option γ} {value : α → γ} : ∀ {l : List α},
    (∀ a ∈ l, read (write a) = some (value a)) → (l.map write).mapM read = some (l.map value)
  | [], _ => rfl
  | a :: l, h => by
    have hfirst := h a List.mem_cons_self
    have hrest : (l.map write).mapM read = some (l.map value) := mapM_map fun b hb => h b (List.mem_cons_of_mem a hb)
    simp [List.mapM_cons, hfirst, hrest]

section

variable {α : Type} {write : α → Json} {shape : Json → Option α}

theorem list?_array (h : ∀ a, shape (write a) = some a) (l : List α) : list? shape (.array (l.map write)) = some l := by
  have hmap : (l.map write).mapM shape = some (l.map id) := mapM_map fun a _ => h a
  rw [List.map_id] at hmap
  exact hmap

theorem vector?_array (h : ∀ a, shape (write a) = some a) {n : Nat} (v : Vector α n) :
    vector? n shape (.array (v.toList.map write)) = some v := by
  have hlist := list?_array h v.toList
  have hback : (⟨v.toList.toArray, by simp⟩ : Vector α n) = v := by
    apply Vector.toArray_inj.1
    rfl
  simp [vector?, hlist, hback]

theorem option?_ofOption (h : ∀ a, shape (write a) = some a) (hnull : ∀ a, write a ≠ .null) (o : Option α) :
    option? shape (ofOption write o) = some o := by
  cases o with
  | none => rfl
  | some a =>
    simp only [ofOption]
    have := h a
    cases hj : write a with
    | null => exact absurd hj (hnull a)
    | _ => rw [hj] at this; simp [option?, this]

end

/-! ## Records -/

theorem filter_key_eq {field : String} : ∀ {members : List (String × Json)}, field ∉ members.map Prod.fst →
    (members.map fun m => ((some m.1 : Quoted), m.2)).filter (fun m => m.1 == some field) = []
  | [], _ => rfl
  | m :: members, h => by
    rw [List.map_cons, List.mem_cons, not_or] at h
    have hm : ¬ m.1 = field := fun he => h.1 he.symm
    have := filter_key_eq h.2
    simpa [hm] using this

theorem member?_of_mem {field : String} {value : Json} : ∀ {members : List (String × Json)},
    (members.map Prod.fst).Nodup → (field, value) ∈ members →
      member? (members.map fun m => (some m.1, m.2)) field = some (some value)
  | m :: members, hkeys, hmem => by
    rw [List.map_cons, List.nodup_cons] at hkeys
    rcases List.mem_cons.1 hmem with rfl | hmem
    · have hrest := filter_key_eq hkeys.1
      simp only [member?, List.map_cons, List.filter_cons, beq_self_eq_true, if_true]
      rw [hrest]
    · have hm : ¬ m.1 = field := fun he => hkeys.1 (he ▸ List.mem_map_of_mem hmem)
      have := member?_of_mem hkeys.2 hmem
      simpa [member?, hm] using this

/-- **A record gives back its fields**, in the order in which they are asked for by name. -/
theorem record?_ofMembers {members : List (String × Json)} {names : List String}
    (hnames : members.map Prod.fst = names) (hkeys : names.Nodup) :
    (ofMembers members).record? names = some (members.map fun m => some m.2) := by
  subst hnames
  have hfields := mapM_map fun m (hm : m ∈ members) => member?_of_mem hkeys hm
  simpa [record?, fields?, ofMembers] using hfields

end Json

/-! ## The parts of a snapshot -/

open Json (record?_ofMembers)

theorem Memory.ofJson?_toJson (m : Memory) : Memory.ofJson? m.toJson = some m := by
  have hbytes := Json.list?_array Json.byte?_ofByte m.bytes.toList
  simp [ofJson?, toJson, record?_ofMembers, hbytes]

theorem Flags.ofJson?_toJson (f : Flags) : Flags.ofJson? f.toJson = some f := by
  simp [ofJson?, toJson, record?_ofMembers, Json.bool?]

theorem ThreadSlot.ofJson?_toJson (t : ThreadSlot) : ThreadSlot.ofJson? t.toJson = some t := by
  have hregisters := Json.vector?_array Json.byte?_ofByte t.registers
  simp [ofJson?, toJson, record?_ofMembers, hregisters, t.flags.ofJson?_toJson]

theorem Fault.ofJson?_ofMembers (tag : String) (j : Json) : ofJson? (Json.ofMembers [(tag, j)]) = ofMember? tag j := rfl

theorem Fault.ofJson?_toJson (f : Fault) : Fault.ofJson? f.toJson = some f := by
  cases f with
  | haltInstruction | noInactiveThreads | onlyOneThreadActive | noActiveThreads =>
    simp [ofJson?, toJson, Json.ofString, tag, ofTag?]
  | illegalRegisterRead | illegalRegisterWrite | illegalBitOffset | programCounterOverflow | memoryOutOfBounds =>
    simp [toJson, ofJson?_ofMembers, tag, ofMember?]
  | illegalJumpTarget target base =>
    simp [toJson, ofJson?_ofMembers, tag, ofMember?, jumpTarget?, record?_ofMembers]
  | unknownOpcode opcode position =>
    simp [toJson, ofJson?_ofMembers, tag, ofMember?, opcode?, record?_ofMembers]

theorem Fault.toJson_ne_null (f : Fault) : f.toJson ≠ .null := by
  cases f <;> nofun

theorem Snapshot.ofJson?_toJson (s : Snapshot) : Snapshot.ofJson? s.toJson = some s := by
  have hslots := Json.vector?_array ThreadSlot.ofJson?_toJson s.slots
  have hreason := Json.option?_ofOption Fault.ofJson?_toJson Fault.toJson_ne_null s.reason
  simp [ofJson?, toJson, record?_ofMembers, s.memory.ofJson?_toJson, hslots, hreason, Json.bool?]

/-- **The text of a snapshot spells that snapshot.** -/
theorem Snapshot.ofText?_toText (s : Snapshot) : Snapshot.ofText? s.toText = some s := by
  simp [ofText?, toText, Json.parse_render, s.ofJson?_toJson]

namespace Machine

/-! ## Machines -/

/-- A machine is what its snapshot says, with its table and its devices. -/
theorem restore_snapshot_of (m m' : Machine) :
    m'.restore m.snapshot = { m with table := m'.table, devices := m'.devices } := by
  have := restore_snapshot { m with table := m'.table, devices := m'.devices }
  exact this

/-- Restoring normalises the active slot and keeps all the rest. -/
theorem snapshot_restore (m : Machine) (s : Snapshot) : (m.restore s).snapshot = { s with active := s.active % 4 } := by
  have hactive : UInt64.ofNat (Fin.ofNat 4 s.active.toNat).val = s.active % 4 := by
    apply UInt64.toNat_inj.1
    have := s.active.toNat_lt
    simp only [Fin.ofNat, UInt64.toNat_ofNat', UInt64.toNat_mod]
    rw [show (4 : UInt64).toNat = 4 from rfl]
    omega
  simp only [snapshot, restore]
  rw [hactive]

/-- **Loading what was saved** gives the saved machine, with the table and the devices of the one that loads. -/
theorem load?_save (m m' : Machine) : m'.load? m.save = some { m with table := m'.table, devices := m'.devices } := by
  rw [load?, save, Snapshot.ofText?_toText, Option.map_some, restore_snapshot_of]

/-- **Saving and loading are inverse, and a loaded machine goes on like the saved one.**  The text of a machine loads
into any other, with the same snapshot; under the same table and with the same devices the two stay equal for any number
of ticks.  Whatever text a machine loads, its own text spells the same snapshot, with the number of the active slot
taken modulo 4, and loads it into any other machine. -/
theorem save_load :
    (∀ m m' : Machine, ∃ loaded, m'.load? m.save = some loaded ∧ loaded.snapshot = m.snapshot ∧
      (m'.table = m.table → m'.devices = m.devices → ∀ k, (ticks k loaded).snapshot = (ticks k m).snapshot)) ∧
    ∀ (m : Machine) (text : String) (loaded : Machine), m.load? text = some loaded →
      ∃ s, Snapshot.ofText? text = some s ∧ loaded.snapshot = { s with active := s.active % 4 } ∧
        Snapshot.ofText? loaded.save = some { s with active := s.active % 4 } ∧
        ∀ m' : Machine, ∃ again, m'.load? loaded.save = some again ∧ again.snapshot = loaded.snapshot := by
  constructor
  · intro m m'
    refine ⟨_, load?_save m m', rfl, fun htable hdevices k => ?_⟩
    rw [htable, hdevices]
  · intro m text loaded hload
    obtain ⟨s, hs, rfl⟩ := Option.map_eq_some_iff.1 hload
    have hsnapshot := snapshot_restore m s
    refine ⟨s, hs, hsnapshot, ?_, fun m' => ⟨_, load?_save _ m', rfl⟩⟩
    rw [save, Snapshot.ofText?_toText, hsnapshot]

end Machine
end CoopCpu
