import CoopCpu.CommandLine
import CoopCpu.Proofs.AttachOrder
import CoopCpu.Proofs.Encoding
import CoopCpu.Proofs.KeyboardTape
import CoopCpu.Proofs.Runway
import CoopCpu.Proofs.Start
/-!
# Proofs.KeyboardWindow — where the keyboard meets the program

A keyboard is attached at a fixed place, and a setting says where the program begins.  If it begins at 14 or above, the
byte that a key is put into lies below the program, and if it has any byte at all the memory reaches past the keyboard
(`harmless_of_window`).  Otherwise a key overwrites a byte of the program or halts the machine (`harmful_of_window`), except
where the machine halts at once for other reasons: it has no thread, or no program (`faults_starting`).
-/
namespace CoopCpu

namespace Memory

theorem mem_holding {base : Nat} {image : Array Byte} {size : Nat} {b : Byte} (h : b ∈ (holding base image size).bytes) :
    b = 0 ∨ b ∈ image := by
  unfold holding at h
  rw [Array.mem_append, Array.mem_append, Array.mem_replicate, Array.mem_replicate] at h
  rcases h with (⟨-, zero⟩ | among) | ⟨-, zero⟩
  · exact .inl zero
  · exact .inr among
  · exact .inl zero

theorem getElem?_holding {base : Nat} {image : Array Byte} (size : Nat) {i : Nat} (h : i < image.size) :
    (holding base image size).bytes[base + i]? = image[i]? := by
  unfold holding
  have before : (Array.replicate base (0 : Byte)).size = base := Array.size_replicate
  rw [Array.getElem?_append_left (by rw [Array.size_append, before]; omega),
    Array.getElem?_append_right (by rw [before]; omega), before, Nat.add_sub_cancel_left]

end Memory

namespace Device

/-- A service writes nowhere else than where the device delivers. -/
theorem bytes_service (m : Memory) (d : Device) {p : Nat} (h : p ≠ d.inputLocation.toNat) :
    (service m d).1.bytes[p]? = m.bytes[p]? := by
  have serviced := serviced m d
  generalize service m d = outcome at serviced ⊢
  cases serviced with
  | done _ _ _ => exact Memory.getElem?_set m d.inputLocation _ h
  | idle _ | unread _ _ | unwritten _ _ _ => rfl

theorem service_keyboard (m : Memory) (k : Keyboard) : ∃ k', (service m (.keyboard k)).2.1 = .keyboard k' := by
  have serviced := serviced m (.keyboard k)
  generalize service m (.keyboard k) = outcome at serviced ⊢
  cases serviced with
  | idle _ | done _ _ _ | unread _ _ | unwritten _ _ _ => exact ⟨_, rfl⟩

end Device

namespace CommandLine

/-- What is typed before each tick: the keys that arrive, and whether the input has ended. -/
abbrev Typing := Nat → List Byte × Bool

/-- Keys that have been served are shown, and then those that are typed arrive. -/
def Typing.surroundings (typing : Typing) : Surroundings := fun n m =>
  let typed := typeKeys (typing n).1 (clearShown m)
  (if (typing n).2 then endKeys typed else typed).devices

theorem Typing.keyboard (typing : Typing) (n : Nat) {m : Machine} {k : Keyboard} (only : m.devices = [.keyboard k]) :
    ∃ k', typing.surroundings n m = [.keyboard k'] := by
  unfold surroundings endKeys typeKeys clearShown
  rw [only]
  cases (typing n).2 with
  | true => exact ⟨_, rfl⟩
  | false => exact ⟨_, rfl⟩

end CommandLine

open CommandLine

/-! ## Settings -/

namespace CommandLine.Session

variable {given : Arguments} {config : Config} {read : FileReader} {m : Machine}

theorem memorySize_configure {arguments : List String} {setting : String → Option String}
    (h : configure arguments setting = .ok (given, config)) : config.memorySize = given.memorySize := by
  unfold configure at h
  cases hgiven : Arguments.ofList? arguments with
  | none => simp only [hgiven] at h; cases h
  | some given' =>
    simp only [hgiven] at h
    cases hconfig : (Config.ofSize given'.memorySize).override setting with
    | error e => simp only [hconfig] at h; cases h
    | ok config' =>
      simp only [hconfig] at h
      cases h
      exact Config.memorySize_override hconfig

/-- **The machine of a run** has its program among zeros and a keyboard for its only device. -/
theorem prepare_eq (h : prepare given config read = .ok m) : ∃ image table, image.size ≤ config.memorySize.toNat ∧
    m = (Machine.new (Memory.holding config.base.toNat image config.memorySize.toNat) config.base table).withOnly
      (.keyboard keyboard) := by
  unfold prepare at h
  cases hread : read given.imagePath with
  | error e => simp only [hread] at h; cases h
  | ok image =>
    simp only [hread] at h
    by_cases large : given.memorySize.toNat < image.size
    · rw [if_pos large] at h; cases h
    · rw [if_neg large] at h
      cases hmachine : config.machine read image.data with
      | error e => simp only [hmachine] at h; cases h
      | ok m' =>
        simp only [hmachine] at h
        cases h
        obtain ⟨table, -, room, rfl⟩ := Config.machine_eq hmachine
        exact ⟨image.data, table, room, rfl⟩

theorem prepare_of_fits {image : ByteArray} (sized : config.memorySize = given.memorySize)
    (hread : read given.imagePath = .ok image) (room : image.size ≤ config.memorySize.toNat)
    (addressable : config.totalMemory ≤ Memory.addressable) {table : Table} (htable : config.table read = .ok table) :
    prepare given config read = .ok
      ((Machine.new (Memory.holding config.base.toNat image.data config.memorySize.toNat) config.base table).withOnly
        (.keyboard keyboard)) := by
  have fits : ¬ given.memorySize.toNat < image.size := by rw [← sized]; exact Nat.not_lt.2 room
  have hmachine : config.machine read image.data =
      .ok (Machine.new (Memory.holding config.base.toNat image.data config.memorySize.toNat) config.base table) :=
    Config.machine_of_fits room addressable htable
  unfold prepare
  simp only [hread, hmachine]
  rw [if_neg fits]
  rfl

end CommandLine.Session

namespace Machine

variable {base : Address} {m : Machine} {k : Keyboard}

/-! ## One tick -/

/-- The service at the end of the next tick neither halts the machine nor changes a byte of the program. -/
structure KeyboardHarmless (base : Address) (m : Machine) : Prop where
  unhalted : m.halted = false → m.executed.halted = false → m.tick.halted = false
  unchanged : m.halted = false → ∀ p, base.toNat ≤ p → m.tick.core.memory.bytes[p]? = m.executed.core.memory.bytes[p]?

theorem harmless_of_halted (h : m.halted = true) : m.KeyboardHarmless base where
  unhalted running := by rw [h] at running; cases running
  unchanged running := by rw [h] at running; cases running

/-- A tick that ends with its instruction comes to no service. -/
theorem harmless_of_fault (h : m.executed.halted = true) : m.KeyboardHarmless base where
  unhalted _ unfaulted := by rw [h] at unfaulted; cases unfaulted
  unchanged running p _ := by rw [tick_of_fault running h]

theorem tick_of_keyboard (only : m.devices = [.keyboard k]) (running : m.halted = false)
    (unfaulted : m.executed.halted = false) :
    m.tick.halted = (Device.service m.executed.core.memory (.keyboard k)).2.2.isSome ∧
    m.tick.core.memory = (Device.service m.executed.core.memory (.keyboard k)).1 ∧
    m.tick.devices = [(Device.service m.executed.core.memory (.keyboard k)).2.1] := by
  have hround := Device.serviceAll_singleton m.executed.core.memory (.keyboard k)
  rw [← only] at hround
  cases hfault : (Device.service m.executed.core.memory (.keyboard k)).2.2 with
  | some fault =>
    rw [tick_of_failed_round running unfaulted ((congrArg (·.2.2) hround).trans hfault), hround]
    exact ⟨rfl, rfl, rfl⟩
  | none =>
    rw [tick_of_round running unfaulted ((congrArg (·.2.2) hround).trans hfault), hround]
    exact ⟨unfaulted, rfl, rfl⟩

theorem size_executed (m : Machine) : m.executed.core.memory.size = m.core.memory.size := Core.size_of_stepped m.stepped

/-- **Above a keyboard that lies in memory** a program is safe from its service. -/
theorem harmless_of_window (only : m.devices = [.keyboard k]) (above : 14 ≤ base.toNat) (inside : 14 < m.core.memory.size) :
    m.KeyboardHarmless base where
  unhalted running unfaulted := by
    rw [(tick_of_keyboard only running unfaulted).1]
    have output : (Device.keyboard k).outputLocation.toNat < m.executed.core.memory.size := by
      rw [size_executed]
      exact inside
    have input : (Device.keyboard k).inputLocation.toNat < m.executed.core.memory.size := by
      rw [size_executed]
      exact Nat.lt_of_succ_lt inside
    rw [Device.service_of_inMemory output input]
    rfl
  unchanged running p hp := by
    cases unfaulted : m.executed.halted with
    | true => rw [tick_of_fault running unfaulted]
    | false =>
      rw [(tick_of_keyboard only running unfaulted).2.1]
      have place : (Device.keyboard k).inputLocation.toNat = 13 := rfl
      exact Device.bytes_service _ _ (by omega)

/-- **Around a keyboard** a program is halted or changed by a key that is not in memory yet. -/
theorem harmful_of_window (only : m.devices = [.keyboard k]) {key : Byte} (pending : k.poll.pending = some key)
    (running : m.halted = false) (unfaulted : m.executed.halted = false) (around : base.toNat < 14)
    (fresh : key ∉ m.executed.core.memory.bytes) : ¬ m.KeyboardHarmless base := by
  intro harmless
  have asks : (Device.keyboard k).poll.1 = true := by
    show k.poll.pending.isSome = true
    rw [pending]
    rfl
  obtain ⟨hhalted, hmemory, -⟩ := tick_of_keyboard only running unfaulted
  have serviced := Device.serviced m.executed.core.memory (.keyboard k)
  generalize Device.service m.executed.core.memory (.keyboard k) = outcome at serviced hhalted hmemory
  cases serviced with
  | idle silent => rw [asks] at silent; cases silent
  | unread _ _ | unwritten _ _ _ =>
    have := harmless.unhalted running unfaulted
    rw [hhalted] at this
    cases this
  | @done _ handed _ inside =>
    have delivers : ((Device.keyboard k).poll.2.serve handed).1 = key := by
      show k.poll.serve.1 = key
      unfold Keyboard.serve
      rw [pending]
    have changed : m.tick.core.memory.bytes[13]? = some key := by
      rw [hmemory, delivers]
      exact Array.getElem?_setIfInBounds_self_of_lt inside
    rw [harmless.unchanged running 13 (Nat.le_of_lt_succ around)] at changed
    exact fresh (Array.mem_of_getElem? changed)

theorem keyboard_tick (only : m.devices = [.keyboard k]) : ∃ k', m.tick.devices = [.keyboard k'] := by
  cases running : m.halted with
  | true => rw [tick_of_halted running]; exact ⟨k, only⟩
  | false =>
    cases unfaulted : m.executed.halted with
    | true => rw [tick_of_fault running unfaulted, executed_devices]; exact ⟨k, only⟩
    | false =>
      obtain ⟨k', hserved⟩ := Device.service_keyboard m.executed.core.memory k
      rw [(tick_of_keyboard only running unfaulted).2.2, hserved]
      exact ⟨k', rfl⟩

/-! ## A run -/

theorem keyboard_runIn (only : m.devices = [.keyboard k]) (typing : Typing) : ∀ n : Nat,
    ∃ k', (m.runIn typing.surroundings n).devices = [.keyboard k']
  | 0 => typing.keyboard 0 only
  | n + 1 => by
    obtain ⟨_, before⟩ := keyboard_runIn only typing n
    obtain ⟨_, after⟩ := keyboard_tick before
    exact typing.keyboard (n + 1) after

/-- **Without a thread or without a byte to fetch** the first step ends with a fault. -/
theorem faults_starting {memory : Memory} (h : base = 0 ∨ memory.size ≤ base.toNat) (running : m.halted = false)
    (core : m.core = Core.starting memory base) : m.executed.halted = true := by
  refine (halted_executed_iff running).2 ?_
  cases hstep : m.nextStep.2 with
  | some fault => exact ⟨fault, rfl⟩
  | none =>
    have hstepped := m.stepped
    rw [hstep] at hstepped
    obtain ⟨i, effect, ready, decoded, -⟩ := Core.applied_of_done hstepped
    rw [core] at ready decoded
    obtain ⟨opcode, -, -, hread, -⟩ := Table.decode_iff.1 decoded
    have hinside := Memory.lt_size_of_read hread
    rcases h with rfl | small
    · exact absurd (Core.activeCount_starting_zero memory) ready.1
    · have hbase : base ≠ 0 := by
        rintro rfl
        exact ready.1 (Core.activeCount_starting_zero memory)
      rw [Core.fetchAddress_starting hbase] at hinside
      exact absurd hinside (Nat.not_lt.2 small)

/-- A machine whose first step ends with a fault comes to no service at all. -/
theorem harmless_of_first_fault {w : Surroundings} (fault : (m.runIn w 0).executed.halted = true) : ∀ n : Nat,
    (m.runIn w n).KeyboardHarmless base
  | 0 => harmless_of_fault fault
  | n + 1 => by
    cases running : (m.runIn w 0).halted with
    | true =>
      have ended := halted_of_runIn_halted running (n + 1)
      rw [Nat.zero_add] at ended
      exact harmless_of_halted ended
    | false =>
      have first : (m.runIn w (0 + 1)).halted = true := by
        show (m.runIn w 0).tick.halted = true
        rw [tick_of_fault running fault]
        exact fault
      have ended := halted_of_runIn_halted first n
      rw [Nat.zero_add, Nat.add_comm] at ended
      exact harmless_of_halted ended

end Machine

namespace CommandLine.Session

variable {given : Arguments} {config : Config}

/-- Whatever image the program is given and whatever is typed, in no tick the service of the keyboard halts the machine or
changes a byte at or above the base offset. -/
def Unharmed (given : Arguments) (config : Config) : Prop :=
  ∀ (read : FileReader) (m : Machine), prepare given config read = .ok m →
    ∀ (typing : Typing) (n : Nat), (m.runIn typing.surroundings n).KeyboardHarmless config.base

theorem unharmed_of_window (h : config.base = 0 ∨ config.memorySize = 0 ∨ 14 ≤ config.base) : Unharmed given config := by
  intro read m prepared typing n
  obtain ⟨image, table, room, hm⟩ := prepare_eq prepared
  have core : m.core = Core.starting (Memory.holding config.base.toNat image config.memorySize.toNat) config.base := by
    rw [hm]
    rfl
  have only : m.devices = [.keyboard keyboard] := by rw [hm]; rfl
  have hsize := Memory.size_holding config.base.toNat room
  by_cases unstarted : config.base = 0 ∨ config.memorySize = 0
  · have running : m.halted = false := by rw [hm]; rfl
    refine Machine.harmless_of_first_fault (Machine.faults_starting ?_ running core) n
    refine unstarted.imp_right fun hzero => ?_
    rw [hsize, hzero]
    exact Nat.le_refl _
  · rw [not_or] at unstarted
    have above := UInt16.le_iff_toNat_le.1 ((h.resolve_left unstarted.1).resolve_left unstarted.2)
    have fourteen : (14 : Address).toNat = 14 := rfl
    have positive : config.memorySize.toNat ≠ 0 := fun e => unstarted.2 (UInt64.toNat_inj.1 e)
    obtain ⟨k, only⟩ := Machine.keyboard_runIn only typing n
    refine Machine.harmless_of_window only (by omega) ?_
    rw [Machine.size_runIn, core]
    show 14 < (Memory.holding config.base.toNat image config.memorySize.toNat).size
    omega

end CommandLine.Session

namespace Machine

/-- A program that does nothing but yield once, with a keyboard. -/
def yielding (base : Address) (size : Nat) : Machine :=
  (Machine.new (Memory.holding base.toNat #[1] size) base Table.builtIn).withOnly (.keyboard Session.keyboard)

/-- Before each tick the same key is pressed. -/
def pressing (key : Byte) : Typing := fun _ => ([key], false)

/-- What the first tick finds. -/
def pressed (base : Address) (size : Nat) (key : Byte) : Machine :=
  (yielding base size).runIn (pressing key).surroundings 0

theorem executes_pressed (size : Nat) (key : Byte) (hbase : base ≠ 0) (room : base.toNat + 4 ≤ 65535) :
    (pressed base size key).Executes .yield where
  running := rfl
  ready := Core.ready_starting hbase room
  decoded := by
    show Table.builtIn.decode (Memory.holding base.toNat #[1] size) (Core.starting _ base).fetchAddress = _
    rw [Core.fetchAddress_starting hbase]
    refine Table.decode_eq_ok_iff.2 ⟨[1], rfl, fun i hi => ?_⟩
    obtain rfl : i = 0 := Nat.lt_one_iff.1 hi
    exact ⟨base.toNat_lt, Memory.getElem?_holding size Nat.zero_lt_one⟩

/-- **A key harms a program around the keyboard**, even one that only yields. -/
theorem harmful_pressed (size : Nat) {key : Byte} (fresh : key ≠ 0 ∧ key ≠ 1) (hbase : base ≠ 0)
    (around : base.toNat < 14) : ¬ (pressed base size key).KeyboardHarmless base := by
  have yields : (pressed base size key).core.fetched.evaluate .yield = .ok .handOver := rfl
  have hstep := nextStep_of_executes (executes_pressed size key hbase (by omega)) yields
  have hexecuted := executed_of_done (congrArg Prod.snd hstep)
  have unfaulted : (pressed base size key).executed.halted = false := by rw [hexecuted]; rfl
  have hmemory : (pressed base size key).executed.core.memory = Memory.holding base.toNat #[1] size := by
    rw [hexecuted, hstep]
    show (pressed base size key).core.fetched.memory = _
    rw [Core.fetched_memory]
    rfl
  have pending : ({ Session.keyboard with source := some ⟨[key], false⟩ } : Keyboard).poll.pending = some key := rfl
  refine harmful_of_window rfl pending rfl unfaulted around fun held => ?_
  rw [hmemory] at held
  rcases Memory.mem_holding held with zero | among
  · exact fresh.1 zero
  · exact fresh.2 (by simpa using among)

end Machine

namespace CommandLine.Session

theorem window_of_unharmed {given : Arguments} {config : Config} (sized : config.memorySize = given.memorySize)
    (builtIn : config.tablePath = none) (addressable : config.totalMemory ≤ Memory.addressable)
    (unharmed : Unharmed given config) : config.base = 0 ∨ config.memorySize = 0 ∨ 14 ≤ config.base := by
  refine Classical.byContradiction fun h => ?_
  obtain ⟨hbase, h⟩ := not_or.1 h
  obtain ⟨hsize, hbelow⟩ := not_or.1 h
  have around : config.base.toNat < 14 := UInt16.lt_iff_toNat_lt.1 (UInt16.not_le.1 hbelow)
  have room : (ByteArray.mk #[1]).size ≤ config.memorySize.toNat := by
    have positive : config.memorySize.toNat ≠ 0 := fun e => hsize (UInt64.toNat_inj.1 e)
    exact Nat.one_le_iff_ne_zero.2 positive
  let read : FileReader := fun _ => .ok ⟨#[1]⟩
  have hread : read given.imagePath = .ok ⟨#[1]⟩ := rfl
  have htable : config.table read = .ok Table.builtIn := by
    unfold Config.table
    rw [builtIn]
  have prepared := prepare_of_fits sized hread room addressable htable
  exact Machine.harmful_pressed config.memorySize.toNat (by decide : (2 : Byte) ≠ 0 ∧ (2 : Byte) ≠ 1) hbase around
    (unharmed _ _ prepared (Machine.pressing 2) 0)

/-- **A key press is harmless exactly if the program begins above the keyboard** or the machine cannot start.  With a base
offset of 14 or more and a program of at least one byte the window of the keyboard lies in memory and the byte that it
delivers below the program, so whatever is typed, its service neither halts the machine nor changes the program; with the
base offset 0 or without any program the first tick ends before a service.  Any other base offset lets a key into a
program that only yields, or halts the machine. -/
theorem unharmed_iff {arguments : List String} {setting : String → Option String} {given : Arguments} {config : Config}
    (configured : configure arguments setting = .ok (given, config)) :
    (config.base = 0 ∨ config.memorySize = 0 ∨ 14 ≤ config.base → Unharmed given config) ∧
    (config.tablePath = none → config.totalMemory ≤ Memory.addressable → Unharmed given config →
      config.base = 0 ∨ config.memorySize = 0 ∨ 14 ≤ config.base) :=
  ⟨unharmed_of_window, window_of_unharmed (memorySize_configure configured)⟩

theorem placed_above_unharmed :
    configure ["8", "image.bin"] (Machine.baseSetting "14") = .ok (⟨8, "image.bin"⟩, Config.placed 8 14) ∧
    Unharmed ⟨8, "image.bin"⟩ (Config.placed 8 14) ∧
    prepare ⟨8, "image.bin"⟩ (Config.placed 8 14) (fun _ => .ok ⟨#[1]⟩) = .ok (Machine.yielding 14 8) ∧
    (Machine.pressed 14 8 2).KeyboardHarmless 14 ∧
    (Machine.pressed 14 8 2).tick.core.memory.bytes[13]? = some 2 ∧
    ((Config.placed 8 14).base = 0 ∨ (Config.placed 8 14).memorySize = 0 ∨ 14 ≤ (Config.placed 8 14).base) := by
  have configured : configure ["8", "image.bin"] (Machine.baseSetting "14") = .ok (⟨8, "image.bin"⟩, Config.placed 8 14) := rfl
  have prepared : prepare ⟨8, "image.bin"⟩ (Config.placed 8 14) (fun _ => .ok ⟨#[1]⟩) = .ok (Machine.yielding 14 8) := rfl
  obtain ⟨safe, exact_window⟩ := unharmed_iff configured
  have unharmed := safe (by decide)
  exact ⟨configured, unharmed, prepared, unharmed _ _ prepared (Machine.pressing 2) 0, by decide,
    exact_window rfl (by decide) unharmed⟩

/-- **From 4 on, a key halts a machine of eight bytes**, whose memory ends before the keyboard does; from 12 on it changes
the second byte of the program. -/
theorem placed_around_harmed :
    configure ["8", "image.bin"] (Machine.baseSetting "4") = .ok (⟨8, "image.bin"⟩, Config.placed 8 4) ∧
    prepare ⟨8, "image.bin"⟩ (Config.placed 8 4) (fun _ => .ok ⟨#[1]⟩) = .ok (Machine.yielding 4 8) ∧
    (Machine.pressed 4 8 2).executed.halted = false ∧
    (Machine.pressed 4 8 2).tick.reason = some (.memoryOutOfBounds 14) ∧
    configure ["8", "image.bin"] (Machine.baseSetting "12") = .ok (⟨8, "image.bin"⟩, Config.placed 8 12) ∧
    prepare ⟨8, "image.bin"⟩ (Config.placed 8 12) (fun _ => .ok ⟨#[1]⟩) = .ok (Machine.yielding 12 8) ∧
    (Machine.pressed 12 8 2).executed.core.memory.bytes[13]? = some 0 ∧
    (Machine.pressed 12 8 2).tick.core.memory.bytes[13]? = some 2 :=
  ⟨rfl, rfl, by decide, by decide, rfl, rfl, by decide, by decide⟩

end CommandLine.Session
end CoopCpu
