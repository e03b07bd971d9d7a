import CoopCpu.Proofs.Halting
import CoopCpu.Proofs.Placement
import CoopCpu.Proofs.SavedState
/-!
# Proofs.Addressing — whether all of a memory can be addressed

A new memory has at most as many bytes as there are addresses, and nothing that is done to a memory makes it longer
(`size_answers`).  Only a saved state brings a memory of its own, of whatever length: after a list of requests the memory is
as long as that of the last state that was loaded, or else as long as it was (`size_answersAll`).
-/
namespace CoopCpu

namespace Memory

variable {m m' : Memory} {a : Address}

theorem size_of_write {value : Byte} (h : m.write a value = .ok m') : m'.size = m.size := by
  by_cases inside : a.toNat < m.size
  · rw [write_of_lt inside] at h
    cases h
    exact m.size_set a value
  · rw [write_of_le (Nat.le_of_not_lt inside)] at h
    cases h

theorem size_of_writeBit {i : BitIndex} {value : Bool} (h : m.writeBit a i value = .ok m') : m'.size = m.size := by
  unfold writeBit at h
  cases hread : m.read a with
  | error fault => rw [hread] at h; cases h
  | ok b =>
    rw [hread] at h
    exact size_of_write h

end Memory

/-- The last state that one of the requests loads. -/
def Request.lastLoaded? (requests : List Request) : Option Snapshot := (requests.filterMap Request.loaded?).getLast?

theorem Request.lastLoaded?_cons (r : Request) (rest : List Request) :
    lastLoaded? (r :: rest) = (lastLoaded? rest).or r.loaded? := by
  unfold lastLoaded?
  cases h : r.loaded? with
  | none => rw [List.filterMap_cons_none h, Option.or_none]
  | some s =>
    rw [List.filterMap_cons_some h, List.getLast?_cons]
    cases (rest.filterMap Request.loaded?).getLast? <;> rfl

namespace Machine

variable {m m' : Machine} {r : Request} {requests : List Request}

/-- A machine whose memory comes from where new memories are made. -/
inductive Made : Machine → Prop
  | new {size : Nat} {memory : Memory} (made : Memory.zeros? size = some memory) (base : Address) (table : Table) :
    Made (Machine.new memory base table)
  | config {c : Config} {read : FileReader} {image : Array Byte} {m : Machine} (built : c.machine read image = .ok m) :
    Made m

theorem size_tryMemory {ε : Type} {x : Except ε Memory} (h : ∀ memory, x = .ok memory → memory.size = m.core.memory.size) :
    (m.tryMemory x).core.memory.size = m.core.memory.size := by
  cases x with
  | ok memory => exact h memory rfl
  | error e => rfl

theorem size_iterate (m : Machine) (n : Nat) : (Machine.tick^[n] m).core.memory.size = m.core.memory.size := by
  induction n with
  | zero => rfl
  | succ n ih => rw [Function.iterate_succ_apply', size_tick, ih]

/-- **Only a state that is loaded brings a memory of another length.** -/
theorem size_answers (answer : m.Answers r m') :
    m'.core.memory.size = (r.loaded?.map fun s => s.memory.size).getD m.core.memory.size := by
  cases answer with
  | tick => exact m.size_tick
  | run ends =>
    obtain ⟨n, rfl, -⟩ := runsTo_iff_exists.1 ends
    exact m.size_iterate n
  | halt fault => exact congrArg (fun c => c.memory.size) (m.halt_core fault)
  | write a value => exact size_tryMemory fun _ => Memory.size_of_write
  | writeBit a i value => exact size_tryMemory fun _ => Memory.size_of_writeBit
  | place start image => exact size_tryMemory fun _ h => (Memory.placed_of_load h).2.size
  | load text =>
    show ((m.load? text).getD m).core.memory.size = ((Snapshot.ofText? text).map _).getD _
    unfold load?
    cases Snapshot.ofText? text <;> rfl
  | devices change => rfl

theorem size_answersAll (answers : m.AnswersAll requests m') : m'.core.memory.size =
    ((Request.lastLoaded? requests).map fun s => s.memory.size).getD m.core.memory.size := by
  induction answers with
  | nil => rfl
  | @cons m m₁ m' r rest first _ ih =>
    rw [ih, size_answers first, Request.lastLoaded?_cons]
    cases Request.lastLoaded? rest <;> rfl

theorem Made.size_le (h : m.Made) : m.core.memory.size ≤ Memory.addressable := by
  cases h with
  | @new size memory made base table =>
    obtain ⟨fits, rfl⟩ := Memory.zeros?_eq_some made
    show (Array.replicate size (0 : Byte)).size ≤ _
    rw [Array.size_replicate]
    exact fits
  | @config c read image m built =>
    obtain ⟨table, -, room, rfl⟩ := Config.machine_eq built
    show (Memory.holding c.base.toNat image c.memorySize.toNat).size ≤ _
    rw [Memory.size_holding _ room]
    exact Config.totalMemory_le built

/-- **All of a memory can be addressed exactly if that holds of the last state that was loaded.**  A machine is made with
no more bytes than there are addresses; whatever it is asked to do keeps the length of its memory, except that a state
which is loaded brings a memory of its own, and nothing looks at the length of that. -/
theorem addressable_iff (made : m.Made) (answers : m.AnswersAll requests m') :
    m'.core.memory.size ≤ Memory.addressable ↔
      ∀ s ∈ Request.lastLoaded? requests, s.memory.size ≤ Memory.addressable := by
  rw [size_answersAll answers]
  cases Request.lastLoaded? requests with
  | none => exact ⟨fun _ _ h => (by cases h), fun _ => made.size_le⟩
  | some s => exact ⟨fun h _ hs => Option.some.inj hs ▸ h, fun h => h s rfl⟩

/-- A machine without memory. -/
def emptied : Machine := Machine.new ⟨#[]⟩ 0x80 Table.builtIn

/-- A machine with a given number of zeros. -/
def zeroed (size : Nat) : Machine := Machine.new ⟨Array.replicate size 0⟩ 0x80 Table.builtIn

theorem made_emptied : emptied.Made := by
  have empty : Memory.zeros? 0 = some ⟨#[]⟩ := rfl
  exact .new empty 0x80 Table.builtIn

theorem loads_zeroed (size : Nat) : emptied.AnswersAll [.load (zeroed size).save] (zeroed size) := by
  have loaded : emptied.load? (zeroed size).save = some (zeroed size) := load?_save (zeroed size) emptied
  have answer := Answers.load (m := emptied) (zeroed size).save
  rw [loaded] at answer
  exact .cons answer .nil

theorem lastLoaded?_zeroed (size : Nat) :
    Request.lastLoaded? [.load (zeroed size).save] = some (zeroed size).snapshot := by
  have spelled : (Request.load (zeroed size).save).loaded? = some (zeroed size).snapshot :=
    Snapshot.ofText?_toText (zeroed size).snapshot
  rw [Request.lastLoaded?_cons, spelled]
  rfl

theorem zeroed_addressable : emptied.Made ∧
    emptied.AnswersAll [.load (zeroed Memory.addressable).save] (zeroed Memory.addressable) ∧
    (zeroed Memory.addressable).core.memory.size ≤ Memory.addressable := by
  have answers := loads_zeroed Memory.addressable
  refine ⟨made_emptied, answers, (addressable_iff made_emptied answers).2 fun s hs => ?_⟩
  rw [lastLoaded?_zeroed] at hs
  cases hs
  exact Nat.le_of_eq Array.size_replicate

/-- **A state with one byte too many is loaded all the same.** -/
theorem zeroed_beyond_addresses : emptied.Made ∧
    emptied.AnswersAll [.load (zeroed (Memory.addressable + 1)).save] (zeroed (Memory.addressable + 1)) ∧
    ¬ (zeroed (Memory.addressable + 1)).core.memory.size ≤ Memory.addressable := by
  refine ⟨made_emptied, loads_zeroed _, fun h => ?_⟩
  have hsize : (zeroed (Memory.addressable + 1)).core.memory.size = Memory.addressable + 1 := Array.size_replicate
  rw [hsize] at h
  exact Nat.not_succ_le_self _ h

end Machine
end CoopCpu
