import CoopCpu.Proofs.Placement
import CoopCpu.Proofs.Steps
import CoopCpu.Setup
/-!
# Proofs.Setup — the machine that comes out of its settings

A machine that the settings yield has the image at the base offset and zeros below and above it (`Memory.holding`,
`load_zeros_of_fits`), the base offset and the table of the settings, and nothing else (`Config.machine_eq`).  Settings yield one
unless the image has no room, the memory cannot be addressed or there is no table, and the first of these is what is
reported (`Config.machine_builds`).
-/
namespace CoopCpu

namespace Memory

/-- Zeros below a base, an image there, and zeros above it until there are `size` bytes from the base on. -/
def holding (base : Nat) (image : Array Byte) (size : Nat) : Memory :=
  ⟨Array.replicate base 0 ++ image ++ Array.replicate (size - image.size) 0⟩

theorem size_holding (base : Nat) {image : Array Byte} {size : Nat} (h : image.size ≤ size) :
    (holding base image size).size = base + size := by
  unfold holding Memory.size
  rw [Array.size_append, Array.size_append, Array.size_replicate, Array.size_replicate]
  omega

theorem zeros?_eq_some {size : Nat} {m : Memory} (h : zeros? size = some m) :
    size ≤ addressable ∧ m = ⟨Array.replicate size 0⟩ := by
  unfold zeros? at h
  by_cases fits : size ≤ addressable
  · rw [if_pos fits] at h
    exact ⟨fits, (Option.some.inj h).symm⟩
  · rw [if_neg fits] at h
    cases h

theorem zeros_eq_ok {size : Nat} {m : Memory} (h : zeros size = .ok m) :
    size ≤ addressable ∧ m = ⟨Array.replicate size 0⟩ := by
  unfold zeros at h
  cases hzeros : zeros? size with
  | none => rw [hzeros] at h; cases h
  | some empty =>
    rw [hzeros] at h
    cases h
    exact zeros?_eq_some hzeros

/-- **Loading puts an image that fits among the zeros.** -/
theorem load_zeros_of_fits {size : Nat} {base : Address} {image : Array Byte} (room : image.size ≤ size) :
    load ⟨Array.replicate (base.toNat + size) 0⟩ base image = .ok (holding base.toNat image size) := by
  have hsize : Memory.size ⟨Array.replicate (base.toNat + size) 0⟩ = base.toNat + size := Array.size_replicate
  unfold load
  simp only [hsize]
  rw [if_neg (by omega), if_neg (by omega)]
  have below : min base.toNat (base.toNat + size) - 0 = base.toNat := by omega
  have above : min (base.toNat + size) (base.toNat + size) - (base.toNat + image.size) = size - image.size := by omega
  unfold holding
  rw [Array.extract_replicate, Array.extract_replicate, below, above]

end Memory

namespace Config

variable {c : Config} {read : FileReader} {image : Array Byte} {m : Machine}

/-! ## What comes of the settings -/

theorem machine_of_large (large : c.memorySize.toNat < image.size) :
    c.machine read image = .error (.imageTooLarge image.size c.memorySize.toNat) := by
  unfold machine
  rw [if_pos large]
  rfl

theorem machine_of_unaddressable (room : image.size ≤ c.memorySize.toNat)
    (beyond : Memory.addressable < c.totalMemory) : c.machine read image = .error (.memoryTooLarge c.totalMemory) := by
  unfold machine Memory.zeros Memory.zeros?
  rw [if_neg (Nat.not_lt.2 room), if_neg (Nat.not_le.2 beyond)]
  rfl

theorem load_of_room (room : image.size ≤ c.memorySize.toNat) : Memory.load ⟨Array.replicate c.totalMemory 0⟩ c.base image =
    .ok (Memory.holding c.base.toNat image c.memorySize.toNat) :=
  Memory.load_zeros_of_fits room

/-- **With room for the image and addresses for the memory**, all that can be wrong is the table. -/
theorem machine_of_room (room : image.size ≤ c.memorySize.toNat) (addressable : c.totalMemory ≤ Memory.addressable) :
    c.machine read image = (c.table read).map fun table =>
      Machine.new (Memory.holding c.base.toNat image c.memorySize.toNat) c.base table := by
  unfold machine Memory.zeros Memory.zeros?
  rw [if_neg (Nat.not_lt.2 room), if_pos addressable]
  show (do
    let memory ← (Memory.load ⟨Array.replicate c.totalMemory 0⟩ c.base image).mapError Memory.LoadError.toSetupError
    let table ← c.table read
    return Machine.new memory c.base table) = _
  rw [load_of_room room]
  cases c.table read <;> rfl

/-- **Settings yield a machine** if the image fits, the memory can be addressed and there is a table. -/
theorem machine_of_fits {table : Table} (room : image.size ≤ c.memorySize.toNat)
    (addressable : c.totalMemory ≤ Memory.addressable) (htable : c.table read = .ok table) :
    c.machine read image = .ok (Machine.new (Memory.holding c.base.toNat image c.memorySize.toNat) c.base table) := by
  rw [machine_of_room room addressable, htable]
  rfl

/-- **A machine that the settings yield** has the image among zeros, and the base offset and the table of the settings. -/
theorem machine_eq_ok_iff : c.machine read image = .ok m ↔
    image.size ≤ c.memorySize.toNat ∧ c.totalMemory ≤ Memory.addressable ∧ ∃ table, c.table read = .ok table ∧
      m = Machine.new (Memory.holding c.base.toNat image c.memorySize.toNat) c.base table := by
  constructor
  · intro built
    by_cases room : image.size ≤ c.memorySize.toNat
    · by_cases addressable : c.totalMemory ≤ Memory.addressable
      · rw [machine_of_room room addressable] at built
        cases htable : c.table read with
        | error e => rw [htable] at built; cases built
        | ok table =>
          rw [htable] at built
          exact ⟨room, addressable, table, rfl, (Except.ok.inj built).symm⟩
      · rw [machine_of_unaddressable room (Nat.lt_of_not_le addressable)] at built
        cases built
    · rw [machine_of_large (Nat.lt_of_not_le room)] at built
      cases built
  · rintro ⟨room, addressable, table, htable, rfl⟩
    exact machine_of_fits room addressable htable

theorem machine_eq (built : c.machine read image = .ok m) : ∃ table, c.table read = .ok table ∧
    image.size ≤ c.memorySize.toNat ∧
      m = Machine.new (Memory.holding c.base.toNat image c.memorySize.toNat) c.base table := by
  obtain ⟨room, -, table, htable, eq⟩ := machine_eq_ok_iff.1 built
  exact ⟨table, htable, room, eq⟩

theorem totalMemory_le (built : c.machine read image = .ok m) : c.totalMemory ≤ Memory.addressable :=
  (machine_eq_ok_iff.1 built).2.1

end Config

/-- A machine before its first tick: the image stands at the base offset among zeros, the first slot is about to run it,
and nothing else is set. -/
structure Machine.BuiltFrom (m : Machine) (c : Config) (image : Array Byte) : Prop where
  size : m.core.memory.size = c.base.toNat + c.memorySize.toNat
  program : ∀ i, i < image.size → m.core.memory.bytes[c.base.toNat + i]? = image[i]?
  zeros : ∀ p, p < c.base.toNat ∨ c.base.toNat + image.size ≤ p → p < c.base.toNat + c.memorySize.toNat →
    m.core.memory.bytes[p]? = some 0
  entry : (m.core.slots.get 0).pc = c.base
  others : ∀ i : SlotIndex, i ≠ 0 → (m.core.slots.get i).pc = 0
  registers : ∀ (i : SlotIndex) (r : RegisterIndex), (m.core.slots.get i).register r = 0
  flags : ∀ i : SlotIndex, (m.core.slots.get i).flags = Flags.clear
  active : m.core.active = 0
  base : m.core.base = c.base
  running : m.halted = false
  reason : m.reason = none
  devices : m.devices = []

namespace Config

theorem builtFrom_new {table : Table} (room : image.size ≤ c.memorySize.toNat) :
    (Machine.new (Memory.holding c.base.toNat image c.memorySize.toNat) c.base table).BuiltFrom c image := by
  have hslot := Slots.get_starting c.base
  have hsize : Memory.size ⟨Array.replicate c.totalMemory 0⟩ = c.base.toNat + c.memorySize.toNat := Array.size_replicate
  obtain ⟨-, placed⟩ := Memory.placed_of_load (load_of_room room)
  constructor
  case size => exact placed.size.trans hsize
  case program => exact placed.inside
  case zeros =>
    intro p beside within
    refine (placed.outside p beside).trans ?_
    exact Array.getElem?_replicate.trans (if_pos within)
  case entry => exact congrArg ThreadSlot.pc (hslot 0)
  case others =>
    intro i hi
    refine (congrArg ThreadSlot.pc (hslot i)).trans ?_
    rw [if_neg hi]
    rfl
  case registers =>
    intro i r
    refine (congrArg (fun t => ThreadSlot.register t r) (hslot i)).trans ?_
    split <;> exact Vector.getElem_replicate r.isLt
  case flags =>
    intro i
    refine (congrArg ThreadSlot.flags (hslot i)).trans ?_
    split <;> rfl
  all_goals rfl

/-- **What the settings yield**: a machine with the image at its base offset and nothing else, if the image has room, the
memory can be addressed and there is a table.  Otherwise the first of these that fails is what is reported; once the image
has room, placing it goes well. -/
theorem machine_builds (c : Config) (read : FileReader) (image : Array Byte) :
    ((∃ m, c.machine read image = .ok m) ↔
      image.size ≤ c.memorySize.toNat ∧ c.totalMemory ≤ Memory.addressable ∧ ∃ table, c.table read = .ok table) ∧
    (∀ m, c.machine read image = .ok m → m.BuiltFrom c image ∧ c.table read = .ok m.table) ∧
    (c.memorySize.toNat < image.size →
      c.machine read image = .error (.imageTooLarge image.size c.memorySize.toNat)) ∧
    (image.size ≤ c.memorySize.toNat → Memory.addressable < c.totalMemory →
      c.machine read image = .error (.memoryTooLarge c.totalMemory)) ∧
    (image.size ≤ c.memorySize.toNat → c.totalMemory ≤ Memory.addressable →
      ∀ e, c.table read = .error e → c.machine read image = .error e) ∧
    (image.size ≤ c.memorySize.toNat → ∀ empty, Memory.zeros c.totalMemory = .ok empty →
      ∃ memory, empty.load c.base image = .ok memory) := by
  refine ⟨⟨?_, ?_⟩, fun m built => ?_, machine_of_large, machine_of_unaddressable, fun room addressable e failed => ?_,
    fun room empty hempty => ?_⟩
  · rintro ⟨m, built⟩
    obtain ⟨room, addressable, table, htable, -⟩ := machine_eq_ok_iff.1 built
    exact ⟨room, addressable, table, htable⟩
  · rintro ⟨room, addressable, table, htable⟩
    exact ⟨_, machine_of_fits room addressable htable⟩
  · obtain ⟨room, -, table, htable, rfl⟩ := machine_eq_ok_iff.1 built
    exact ⟨builtFrom_new room, htable⟩
  · rw [machine_of_room room addressable, failed]
    rfl
  · obtain ⟨-, rfl⟩ := Memory.zeros_eq_ok hempty
    exact ⟨_, load_of_room room⟩

end Config
end CoopCpu
