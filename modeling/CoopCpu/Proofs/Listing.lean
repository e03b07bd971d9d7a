import CoopCpu.Listing
import CoopCpu.Proofs.InstructionText
import CoopCpu.Proofs.Ticks
/-!
# Proofs.Listing — a listing covers its range and shows what would be executed

Going through a range line by line comes to an end and gives the listing (`Machine.listsFrom_iff`): there is a line for every
fourth position from the first on, up to the last or to the end of memory.  A line is decoded as the processor decodes it, so
with its position in the program counter the instruction shown is the one that the next tick executes, and the question
marks stand where that tick halts for want of an instruction (`Machine.listing_covers`).
-/
namespace CoopCpu
namespace Machine

/-! ## The lines of a range -/

/-- Going through a range line by line, from a position on: as long as the position is not after the last one and lies in
memory there is a line, and then one goes on four bytes further. -/
inductive ListsFrom (m : Machine) (last : Address) : (position : Nat) → List String → Prop
  | done {position : Nat} (past : ¬ (position ≤ last.toNat ∧ position < m.core.memory.size)) :
    ListsFrom m last position []
  | line {position : Nat} {lines : List String} (inside : position ≤ last.toNat ∧ position < m.core.memory.size)
    (rest : ListsFrom m last (position + instructionSize) lines) : ListsFrom m last position (m.line position :: lines)

variable {m : Machine} {first last : Address} {lines : List String}

theorem listsFrom_of_count {count position : Nat} {last : Address}
    (h : count = (min (last.toNat + 1) m.core.memory.size - position + 3) / 4) :
    m.ListsFrom last position ((List.range' position count 4).map m.line) := by
  induction count generalizing position with
  | zero => exact .done (by omega)
  | succ count ih =>
    rw [List.range'_succ, List.map_cons]
    exact .line (by omega) (ih (by simp only [instructionSize]; omega))

theorem ListsFrom.unique {position : Nat} {lines' : List String} (h : m.ListsFrom last position lines)
    (h' : m.ListsFrom last position lines') : lines' = lines := by
  induction h generalizing lines' with
  | done past =>
    cases h' with
    | done => rfl
    | line inside => exact absurd inside past
  | line inside _ ih =>
    cases h' with
    | done past => exact absurd inside past
    | line _ rest' => rw [ih rest']

/-- **Going through a range comes to an end, and gives the listing.** -/
theorem listsFrom_iff : m.ListsFrom last first.toNat lines ↔ lines = m.listing first last := by
  have hlisting : m.ListsFrom last first.toNat (m.listing first last) := listsFrom_of_count rfl
  exact ⟨hlisting.unique, fun h => h ▸ hlisting⟩

theorem mem_linePositions {a : Nat} : a ∈ m.linePositions first last ↔
    (∃ k, a = first.toNat + 4 * k) ∧ a ≤ last.toNat ∧ a < m.core.memory.size := by
  unfold linePositions
  rw [List.mem_range']
  constructor
  · rintro ⟨k, hk, rfl⟩
    exact ⟨⟨k, rfl⟩, by omega⟩
  · rintro ⟨⟨k, rfl⟩, hlast, hsize⟩
    exact ⟨k, by omega, rfl⟩

theorem linePositions_ascending (m : Machine) (first last : Address) : (m.linePositions first last).Pairwise (· < ·) :=
  List.pairwise_lt_range' 4 (by decide)

theorem getElem?_lineBytes (m : Machine) (a i : Nat) :
    (m.lineBytes a)[i]? = if i < 4 then m.core.memory.bytes[a + i]? else none := by
  unfold lineBytes
  rw [Array.getElem?_toList, Array.getElem?_extract]
  show (if i < min (a + 4) m.core.memory.bytes.size - a then m.core.memory.bytes[a + i]? else none) = _
  by_cases hi : i < 4
  · rw [if_pos hi]
    by_cases inside : a + i < m.core.memory.bytes.size
    · rw [if_pos (by omega)]
    · rw [if_neg (by omega), Array.getElem?_eq_none (by omega)]
  · rw [if_neg hi, if_neg (by omega)]

theorem length_lineBytes (m : Machine) (a : Nat) :
    (m.lineBytes a).length = min (a + 4) m.core.memory.size - a := by
  unfold lineBytes
  rw [Array.length_toList, Array.size_extract]
  rfl

/-! ## What is executed there -/

theorem instructionText_of_ok {a : Nat} {i : Instruction} (h : m.table.decode m.core.memory (UInt16.ofNat a) = .ok i) :
    m.instructionText a = i.text := by
  unfold instructionText
  rw [h]

theorem instructionText_of_error {a : Nat} {fault : Fault}
    (h : m.table.decode m.core.memory (UInt16.ofNat a) = .error fault) : m.instructionText a = "???" := by
  unfold instructionText
  rw [h]

end Machine

theorem Operation.mnemonic_ne_unknown (op : Operation) : op.mnemonic ≠ "???" := by cases op <;> decide

theorem Instruction.text_ne_unknown (i : Instruction) : i.text ≠ "???" := by
  intro h
  have hwords := i.splitOn_text
  rw [h] at hwords
  have hmnemonic : "???" = i.operation.mnemonic := String.toList_inj.1 (List.cons.inj hwords).1
  exact absurd hmnemonic.symm (i.operation.mnemonic_ne_unknown)

namespace Core

variable {c : Core}

theorem handOver_of_active (active : c.activeSlot.pc ≠ 0) : c.handOver = c :=
  if_pos (bne_iff_ne.2 active)

theorem fetchAddress_of_active (active : c.activeSlot.pc ≠ 0) : c.fetchAddress = c.activeSlot.pc := by
  unfold fetchAddress fetchedSlot
  rw [handOver_of_active active]
  rfl

theorem fetched_of_active (active : c.activeSlot.pc ≠ 0) : c.fetched = c.advance := by
  unfold fetched
  rw [handOver_of_active active]

theorem ready_of_active (active : c.activeSlot.pc ≠ 0) (room : c.activeSlot.pc.toNat ≤ 65531) : c.Ready := by
  refine ⟨fun none => active ((Slots.activeCount_eq_zero_iff c.slots).1 none c.active), ?_⟩
  rw [fetchAddress_of_active active]
  omega

end Core

namespace Machine

variable {m : Machine}

theorem executes_iff (running : m.halted = false) (active : m.core.activeSlot.pc ≠ 0)
    (room : m.core.activeSlot.pc.toNat ≤ 65531) {i : Instruction} :
    m.Executes i ↔ m.table.decode m.core.memory m.core.activeSlot.pc = .ok i := by
  have hfetch := Core.fetchAddress_of_active active
  exact ⟨fun h => hfetch ▸ h.decoded, fun h => ⟨running, Core.ready_of_active active room, hfetch ▸ h⟩⟩

theorem tick_of_undecoded (running : m.halted = false) (active : m.core.activeSlot.pc ≠ 0)
    (room : m.core.activeSlot.pc.toNat ≤ 65531) {fault : Fault}
    (undecoded : m.table.decode m.core.memory m.core.activeSlot.pc = .error fault) :
    m.tick = { m with core := m.core.advance, halted := true, reason := some fault } := by
  have hstep : m.nextStep = (m.core.advance, some fault) := by
    unfold nextStep Core.step
    rw [Core.fetchInstruction_of_ready m.table (Core.ready_of_active active room), Core.fetchAddress_of_active active,
      Core.fetched_of_active active, undecoded]
  have hexecuted := executed_of_fault running (congrArg Prod.snd hstep)
  rw [tick_of_fault running (by rw [hexecuted]), hexecuted, hstep]

theorem nextStep_of_decoded (active : m.core.activeSlot.pc ≠ 0)
    (room : m.core.activeSlot.pc.toNat ≤ 65531) {i : Instruction}
    (decoded : m.table.decode m.core.memory m.core.activeSlot.pc = .ok i) : m.nextStep = m.core.advance.execute i := by
  unfold nextStep Core.step
  rw [Core.fetchInstruction_of_ready m.table (Core.ready_of_active active room), Core.fetchAddress_of_active active,
    Core.fetched_of_active active, decoded]

/-- What a text says about the next tick of a machine: it is the text of the instruction that is executed, or question marks
if the tick halts because no instruction can be decoded, with nothing changed but the program counter. -/
structure Foretells (text : String) (m : Machine) : Prop where
  executed : ∀ i, m.Executes i → m.nextStep = m.core.advance.execute i ∧ text = i.text
  undecoded : text = "???" ↔ ∃ fault, m.table.decode m.core.memory m.core.activeSlot.pc = .error fault ∧
    m.tick = { m with core := m.core.advance, halted := true, reason := some fault }
  executes : text ≠ "???" → ∃ i, m.Executes i

/-- **What is listed at the program counter is what the next tick does.** -/
theorem foretells_of_counter (m : Machine) {m' : Machine} (running : m'.halted = false)
    (memory : m'.core.memory = m.core.memory) (table : m'.table = m.table) (active : m'.core.activeSlot.pc ≠ 0)
    (room : m'.core.activeSlot.pc.toNat ≤ 65531) : Foretells (m.instructionText m'.core.activeSlot.pc.toNat) m' := by
  have hposition := UInt16.ofNat_toNat (x := m'.core.activeSlot.pc)
  cases decoded : m'.table.decode m'.core.memory m'.core.activeSlot.pc with
  | ok i =>
    rw [instructionText_of_ok (by rw [hposition, ← memory, ← table, decoded])]
    constructor
    case executed =>
      intro j executes
      have decoded' := (executes_iff running active room).1 executes
      rw [decoded] at decoded'
      cases decoded'
      exact ⟨nextStep_of_decoded active room decoded, rfl⟩
    case undecoded =>
      refine ⟨fun h => absurd h i.text_ne_unknown, fun ⟨fault, undecoded, _⟩ => ?_⟩
      rw [decoded] at undecoded
      cases undecoded
    case executes => exact fun _ => ⟨i, (executes_iff running active room).2 decoded⟩
  | error fault =>
    rw [instructionText_of_error (by rw [hposition, ← memory, ← table, decoded])]
    constructor
    case executed =>
      intro j executes
      have decoded' := (executes_iff running active room).1 executes
      rw [decoded] at decoded'
      cases decoded'
    case undecoded => exact ⟨fun _ => ⟨fault, decoded, tick_of_undecoded running active room decoded⟩, fun _ => rfl⟩
    case executes => exact fun h => absurd rfl h

/-- **A listing has a line for every fourth position of its range that lies in memory**, in ascending order, and no other;
going through the range line by line comes to an end with just these.  A line shows its position, the bytes from there on
by two digits each, and a text, which says what the next tick does when the position is in the program counter of the
running slot. -/
theorem listing_covers (m : Machine) (first last : Address) :
    (∀ lines, m.ListsFrom last first.toNat lines ↔ lines = m.listing first last) ∧
    (m.listing first last = (m.linePositions first last).map m.line ∧ (m.linePositions first last).Pairwise (· < ·) ∧
      ∀ a, a ∈ m.linePositions first last ↔
        (∃ k, a = first.toNat + 4 * k) ∧ a ≤ last.toNat ∧ a < m.core.memory.size) ∧
    ∀ a ∈ m.linePositions first last,
      (m.line a = Hex.number 4 a ++ ":\t" ++ Hex.dump (m.lineBytes a) ++ "\t" ++ m.instructionText a ∧
        Numeral.parse (Hex.number 4 a) = .ok a ∧
        (∀ bytes, Hex.Pairs (Hex.dump (m.lineBytes a)).toList bytes ↔ bytes = m.lineBytes a) ∧
        (m.lineBytes a).length = min (a + 4) m.core.memory.size - a ∧
        ∀ i < 4, (m.lineBytes a)[i]? = m.core.memory.bytes[a + i]?) ∧
      ∀ m' : Machine, m'.halted = false → m'.core.memory = m.core.memory → m'.table = m.table →
        m'.core.activeSlot.pc.toNat = a → 1 ≤ a → a ≤ 65531 → Foretells (m.instructionText a) m' := by
  refine ⟨fun lines => listsFrom_iff, ⟨rfl, linePositions_ascending m first last, fun a => mem_linePositions⟩,
    fun a ha => ⟨⟨rfl, Numeral.parse_number 4 ?_, fun bytes => Hex.pairs_dump_iff, length_lineBytes m a, fun i hi => ?_⟩,
      ?_⟩⟩
  · obtain ⟨-, hlast, -⟩ := mem_linePositions.1 ha
    exact Nat.lt_of_le_of_lt hlast (Nat.lt_trans last.toNat_lt (by decide))
  · rw [getElem?_lineBytes, if_pos hi]
  · rintro m' running memory table rfl positive room
    refine foretells_of_counter m running memory table (fun zero => ?_) room
    rw [zero] at positive
    exact absurd positive (by decide)

/-- Two instructions, and then a byte that is none. -/
def twoInstructions : Machine := Machine.new ⟨#[0, 0, 0, 0, 12, 5, 0, 0, 4, 0, 4, 0, 238]⟩ 4 Table.builtIn

example : twoInstructions.listing 4 0xFFFF =
    ["0x0004:\t0c050000\tSET 0x05, A", "0x0008:\t04000400\tJUMP 0x0004", "0x000C:\tee\t???"] := by decide +kernel

end Machine
end CoopCpu
