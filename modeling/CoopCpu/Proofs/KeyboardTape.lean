import CoopCpu.Proofs.Delivery
import CoopCpu.Proofs.KeyQueue
/-!
# Proofs.KeyboardTape — a keyboard and an enabled tape in its place serve a program alike

A keyboard holds what arrives in two places, the source and the key that is pending; to a program that is one queue
(`Keyboard.keys`).  `Keyboard.Follows` relates it to a scripted device at the same location, and what befalls the two or a
service of both keeps them related, whether it ends in a fault or not (`Follows.service`).  The machines that differ in this
device alone therefore go the same way (`keyboard_as_tape`).
-/
namespace CoopCpu
namespace Keyboard

variable {k : Keyboard} {d : Scripted} {line : Bool} {taken : List Byte}

/-- The keyboard and the scripted device have the same bytes to deliver at the same place, and the keyboard remembers the
last ones of those that were taken.  As long as the line is open, the keyboard listens to it. -/
structure Follows (line : Bool) (taken : List Byte) (k : Keyboard) (d : Scripted) : Prop where
  enabled : d.enabled = true
  location : d.location = Keyboard.location
  queue : d.queue = k.keys
  recent : k.recent = taken.drop (taken.length - recentLimit)
  listens : line = true → k.Listens

namespace Follows

theorem wantsService (h : Follows line taken k d) : d.wantsService = k.poll.pending.isSome := by
  unfold Scripted.wantsService
  rw [h.enabled, h.queue, pending_poll]
  cases k.keys <;> rfl

theorem poll (h : Follows line taken k d) : Follows line taken k.poll d where
  enabled := h.enabled
  location := h.location
  queue := by rw [keys_poll, h.queue]
  recent := by rw [recent_poll, h.recent]
  listens := fun isOpen => listens_poll_iff.2 (h.listens isOpen)

/-- **Both deliver the pending key.** -/
theorem serve (h : Follows line taken k d) {key : Byte} (pending : k.pending = some key) (handed : Byte) :
    k.serve.1 = key ∧ (d.serve handed).1 = key ∧ Follows line (taken ++ [key]) k.serve.2 (d.serve handed).2 := by
  rw [serve_of_some pending]
  unfold Scripted.serve
  rw [h.queue, keys_of_pending pending]
  refine ⟨rfl, rfl, h.enabled, h.location, rfl, ?_, h.listens⟩
  show (k.recent ++ [key]).drop (k.recent.length + 1 - recentLimit) = _
  rw [h.recent]
  exact last_append recentLimit taken key

theorem arrival (h : Follows true taken k d) (keys : List Byte) : Follows true taken (k.receive keys) (d.push keys) where
  enabled := h.enabled
  location := h.location
  queue := by
    rw [(receive_of_listens (h.listens rfl) keys).2, ← h.queue]
    rfl
  recent := (k.recent_receive keys).trans h.recent
  listens := fun _ => (receive_of_listens (h.listens rfl) keys).1

theorem closing (h : Follows line taken k d) : Follows false taken k.close d where
  enabled := h.enabled
  location := h.location
  queue := h.queue.trans k.keys_close.symm
  recent := h.recent
  listens := fun isOpen => Bool.noConfusion isOpen

/-! ## One service -/

open Device

theorem outputLocation (h : Follows line taken k d) :
    (Device.scripted d).outputLocation = (Device.keyboard k).outputLocation :=
  congrArg (· + 2) h.location

theorem inputLocation (h : Follows line taken k d) :
    (Device.scripted d).inputLocation = (Device.keyboard k).inputLocation :=
  congrArg (· + 1) h.location

theorem asks (h : Follows line taken k d) : (Device.scripted d).poll.1 = (Device.keyboard k).poll.1 := h.wantsService

theorem exchanged_eq (h : Follows line taken k d) {key : Byte} (pending : k.pending = some key) (m : Memory) :
    exchanged m (.keyboard k) = exchanged m (.scripted d) := by
  unfold exchanged
  rw [h.outputLocation, h.inputLocation]
  cases m.read (Device.keyboard k).outputLocation with
  | error fault => rfl
  | ok handed =>
    obtain ⟨hkey, htape, -⟩ := h.serve pending handed
    simp only [Device.serve, hkey, htape]

theorem delivered_eq (h : Follows line taken k d) (m : Memory) :
    delivered m (.keyboard k) = delivered m (.scripted d) := by
  cases asks : (Device.keyboard k).poll.1 with
  | false => rw [delivered_of_idle m asks, delivered_of_idle m (h.asks.trans asks)]
  | true =>
    obtain ⟨key, pending⟩ := Option.isSome_iff_exists.1 asks
    rw [delivered_of_asking m asks, delivered_of_asking m (h.asks.trans asks)]
    exact h.poll.exchanged_eq pending m

theorem taken_eq (h : Follows line taken k d) (m : Memory) :
    (Device.keyboard k).taken m = (Device.scripted d).taken m := by
  cases asks : (Device.keyboard k).poll.1 with
  | false => rw [taken_of_idle m asks, taken_of_idle m (h.asks.trans asks)]
  | true =>
    obtain ⟨key, pending⟩ := Option.isSome_iff_exists.1 asks
    rw [taken_of_asking m asks, taken_of_asking m (h.asks.trans asks), h.outputLocation]
    cases m.read (Device.keyboard k).outputLocation with
    | error fault => rfl
    | ok handed =>
      obtain ⟨hkey, htape, -⟩ := h.poll.serve pending handed
      exact congrArg some (hkey.trans htape.symm)

/-- **A service leaves the two as they were to each other**, with the same memory and the same fault. -/
theorem service (h : Follows line taken k d) (m : Memory) : ∃ m' fault k' d',
    Device.service m (.keyboard k) = (m', .keyboard k', fault) ∧
    Device.service m (.scripted d) = (m', .scripted d', fault) ∧
    Follows line (taken ++ ((Device.scripted d).taken m).toList) k' d' := by
  cases asks : (Device.keyboard k).poll.1 with
  | false =>
    rw [service_of_idle m asks, service_of_idle m (h.asks.trans asks), taken_of_idle m (h.asks.trans asks),
      Option.toList_none, List.append_nil]
    exact ⟨m, none, k.poll, d, rfl, rfl, h.poll⟩
  | true =>
    obtain ⟨key, pending⟩ := Option.isSome_iff_exists.1 asks
    rw [service_of_asking m asks, service_of_asking m (h.asks.trans asks), taken_of_asking m (h.asks.trans asks)]
    unfold exchange
    rw [outputLocation_poll, outputLocation_poll, inputLocation_poll, inputLocation_poll, h.outputLocation,
      h.inputLocation]
    cases m.read (Device.keyboard k).outputLocation with
    | error fault =>
      -- the poll has made a key pending and the fault comes before it is served: it is still among the keys
      have untaken : Follows line (taken ++ []) k.poll d := by rw [List.append_nil]; exact h.poll
      exact ⟨m, some fault, k.poll, d, rfl, rfl, untaken⟩
    | ok handed =>
      obtain ⟨hkey, htape, follows⟩ := h.poll.serve pending handed
      have hkeyboard : Device.serve handed (Device.keyboard k).poll.2 = (key, .keyboard k.poll.serve.2) :=
        Prod.ext hkey rfl
      have hscripted : Device.serve handed (Device.scripted d).poll.2 = (key, .scripted (d.serve handed).2) :=
        Prod.ext htape rfl
      simp only [Except.toOption, Option.map_some, hkeyboard, hscripted]
      -- a key that cannot land has been taken all the same
      cases m.write (Device.keyboard k).inputLocation key with
      | error fault => exact ⟨m, some fault, _, _, rfl, rfl, follows⟩
      | ok m' => exact ⟨m', none, _, _, rfl, rfl, follows⟩

end Follows
end Keyboard

namespace Device

theorem serviceAll_singleton (m : Memory) (d : Device) :
    serviceAll m [d] = ((service m d).1, [(service m d).2.1], (service m d).2.2) := by
  cases h : (service m d).2.2 with
  | some fault => exact serviceAll_cons_of_fault h
  | none => exact serviceAll_cons_of_done h

theorem deliveries_singleton (m : Memory) (d : Device) : deliveries m [d] = delivered m d := by
  unfold deliveries
  obtain ⟨m', d', fault⟩ := service m d
  cases fault with
  | some fault => rfl
  | none => exact List.append_nil _

end Device

/-! ## One machine with either device -/

/-- A history of a line to the only device of a machine, which is open at first or not: bytes arrive while it is open, and
it may be closed. -/
inductive Occurrence.OnLine : (line : Bool) → List Occurrence → Prop
  | nil {line} : OnLine line []
  | tick {line rest} : OnLine line rest → OnLine line (.tick :: rest)
  | arrival {bytes rest} : OnLine true rest → OnLine true (.befalls 0 (.arrival bytes) :: rest)
  | closing {line rest} : OnLine false rest → OnLine line (.befalls 0 .closing :: rest)

namespace Machine

/-- The machine with this device for its only one. -/
def withOnly (m : Machine) (d : Device) : Machine := { m with devices := [d] }

section
variable (m : Machine) (d : Device)

theorem executed_withOnly : (m.withOnly d).executed = m.executed.withOnly d := m.executed_withDevices [d]

theorem taken_withOnly : (m.withOnly d).taken 0 =
    if m.halted || m.executed.halted then none else d.taken m.executed.core.memory := by
  unfold taken
  rw [executed_withOnly]
  rfl

theorem tick_withOnly : (m.withOnly d).tick =
    if m.halted then m.withOnly d
    else if m.executed.halted then m.executed.withOnly d else (m.executed.withOnly d).serviceDevices := by
  unfold tick
  rw [executed_withOnly]
  rfl

theorem deliveries_withOnly : (m.withOnly d).deliveries =
    if m.halted || m.executed.halted then [] else Device.delivered m.executed.core.memory d := by
  unfold deliveries
  rw [executed_withOnly, ← Device.deliveries_singleton]
  rfl

end

/-- **A round of service of an only device** does to the rest of the machine what the memory and the fault of the service
say. -/
theorem serviceDevices_withOnly (m : Machine) (memory : Memory) (fault : Option Fault) : ∃ m' : Machine, ∀ d d' : Device,
    Device.service m.core.memory d = (memory, d', fault) → (m.withOnly d).serviceDevices = m'.withOnly d' := by
  have round {d d' : Device} (h : Device.service m.core.memory d = (memory, d', fault)) :
      Device.serviceAll m.core.memory [d] = (memory, [d'], fault) := by
    rw [Device.serviceAll_singleton, h]
  cases fault with
  | none =>
    refine ⟨{ m with core := { m.core with memory } }, fun d d' h => ?_⟩
    unfold serviceDevices withOnly
    simp only [round h]
  | some f =>
    refine ⟨{ m with core := { m.core with memory } }.halt f, fun d d' h => ?_⟩
    unfold serviceDevices withOnly
    simp only [round h]
    exact halt_withDevices { m with core := { m.core with memory } } [d'] f

/-- The machines are the same but for their only device, a keyboard in the first and in the second a scripted device, from
which `taken` has been taken. -/
def Mirrors (line : Bool) (taken : List Byte) (m m' : Machine) : Prop :=
  ∃ (rest : Machine) (k : Keyboard) (d : Scripted),
    k.Follows line taken d ∧ m = rest.withOnly (.keyboard k) ∧ m' = rest.withOnly (.scripted d)

namespace Mirrors

variable {line : Bool} {taken : List Byte} {m m' : Machine}

theorem snapshot_eq (h : Mirrors line taken m m') : m.snapshot = m'.snapshot := by
  obtain ⟨rest, k, d, -, rfl, rfl⟩ := h
  rfl

theorem taken_eq (h : Mirrors line taken m m') : m.taken 0 = m'.taken 0 := by
  obtain ⟨rest, k, d, follows, rfl, rfl⟩ := h
  rw [taken_withOnly, taken_withOnly, follows.taken_eq]

theorem deliveries_eq (h : Mirrors line taken m m') : m.deliveries = m'.deliveries := by
  obtain ⟨rest, k, d, follows, rfl, rfl⟩ := h
  rw [deliveries_withOnly, deliveries_withOnly, follows.delivered_eq]

/-- **A tick does the same to both machines.** -/
theorem tick (h : Mirrors line taken m m') : Mirrors line (taken ++ (m'.taken 0).toList) m.tick m'.tick := by
  obtain ⟨rest, k, d, follows, rfl, rfl⟩ := h
  rw [taken_withOnly, tick_withOnly, tick_withOnly]
  -- a tick that does not come to the service leaves both devices as they are
  have unserved : k.Follows line (taken ++ []) d := by rw [List.append_nil]; exact follows
  cases rest.halted with
  | true => exact ⟨rest, k, d, unserved, rfl, rfl⟩
  | false =>
    cases rest.executed.halted with
    | true => exact ⟨rest.executed, k, d, unserved, rfl, rfl⟩
    | false =>
      obtain ⟨memory, fault, k', d', hkeyboard, htape, follows'⟩ := follows.service rest.executed.core.memory
      obtain ⟨rest', hrest⟩ := serviceDevices_withOnly rest.executed memory fault
      exact ⟨rest', k', d', follows', hrest _ _ hkeyboard, hrest _ _ htape⟩

theorem arrival (h : Mirrors true taken m m') (bytes : List Byte) :
    Mirrors true taken (m.undergo (.befalls 0 (.arrival bytes))) (m'.undergo (.befalls 0 (.arrival bytes))) := by
  obtain ⟨rest, k, d, follows, rfl, rfl⟩ := h
  exact ⟨rest, _, _, follows.arrival bytes, rfl, rfl⟩

theorem closing (h : Mirrors line taken m m') :
    Mirrors false taken (m.undergo (.befalls 0 .closing)) (m'.undergo (.befalls 0 .closing)) := by
  obtain ⟨rest, k, d, follows, rfl, rfl⟩ := h
  exact ⟨rest, _, _, follows.closing, rfl, rfl⟩

/-- **In a history the two machines go the same way.** -/
theorem after {history : List Occurrence} (onLine : Occurrence.OnLine line history) (h : Mirrors line taken m m') :
    ∃ line', Mirrors line' (taken ++ m'.takenIn 0 history) (m.after history) (m'.after history) := by
  induction onLine generalizing taken m m' with
  | nil =>
    rw [takenIn, List.append_nil]
    exact ⟨_, h⟩
  | tick _ ih =>
    obtain ⟨line', h'⟩ := ih h.tick
    rw [List.append_assoc] at h'
    exact ⟨line', h'⟩
  | @arrival bytes _ _ ih => exact ih (h.arrival bytes)
  | closing _ ih => exact ih h.closing

end Mirrors

/-- The machine with a new keyboard for its only device. -/
def withKeyboard (m : Machine) : Machine := m.withOnly (.keyboard .plugged)

/-- The machine with a new scripted device, enabled, for its only one, where a keyboard would be. -/
def withTape (m : Machine) (name : String) : Machine := m.withOnly (Device.enable (.scripted (.new name Keyboard.location)))

theorem mirrors_new (m : Machine) (name : String) : Mirrors true [] m.withKeyboard (m.withTape name) :=
  ⟨m, .plugged, { Scripted.new name Keyboard.location with enabled := true },
    ⟨rfl, rfl, rfl, rfl, fun _ => ⟨[], rfl⟩⟩, rfl, rfl⟩

/-- **To a program a keyboard and an enabled tape are the same device.**  Let the same bytes arrive at a new keyboard and at a
new scripted device in its place that is enabled, in any order with the ticks, and no more after the line has been closed.
Then the machines have the same snapshot after any such history, their next ticks take the same byte and deliver the same
into memory, and the keyboard remembers the last bytes that were taken from the scripted device. -/
theorem keyboard_as_tape (m : Machine) (name : String) {history : List Occurrence}
    (onLine : Occurrence.OnLine true history) :
    (m.withKeyboard.after history).snapshot = ((m.withTape name).after history).snapshot ∧
    (m.withKeyboard.after history).taken 0 = ((m.withTape name).after history).taken 0 ∧
    (m.withKeyboard.after history).deliveries = ((m.withTape name).after history).deliveries ∧
    ∃ k, (m.withKeyboard.after history).devices = [.keyboard k] ∧
      k.recent = ((m.withTape name).takenIn 0 history).drop
        (((m.withTape name).takenIn 0 history).length - Keyboard.recentLimit) := by
  obtain ⟨line, h⟩ := (m.mirrors_new name).after onLine
  obtain ⟨rest, k, d, follows, hkeyboard, -⟩ := id h
  exact ⟨h.snapshot_eq, h.taken_eq, h.deliveries_eq, k, by rw [hkeyboard]; rfl, follows.recent⟩

/-- A thread that goes round in one place, in a memory that ends where a keyboard does. -/
def goingRound : Machine := Machine.new ⟨#[0, 0, 0, 0, 4, 0, 4, 0, 0, 0, 0, 0, 0, 0, 0]⟩ 4 Table.builtIn

/-- Twenty-seven keys arrive, the line is closed, and the machine ticks once more than there are keys. -/
def typing : List Occurrence :=
  .befalls 0 (.arrival ((List.range 27).map UInt8.ofNat)) :: .befalls 0 .closing :: List.replicate 28 .tick

theorem goingRound_keyboard : Occurrence.OnLine true typing ∧
    (goingRound.withKeyboard.after typing).snapshot = ((goingRound.withTape "tape").after typing).snapshot ∧
    ∃ k, (goingRound.withKeyboard.after typing).devices = [.keyboard k] ∧
      k.recent = ((List.range 27).map UInt8.ofNat).drop 2 := by
  have onLine : Occurrence.OnLine true typing := by
    unfold typing
    repeat constructor
  obtain ⟨snapshot, -, -, k, attached, recent⟩ := keyboard_as_tape goingRound "tape" onLine
  have taken : (goingRound.withTape "tape").takenIn 0 typing = (List.range 27).map UInt8.ofNat := by decide +kernel
  rw [taken] at recent
  exact ⟨onLine, snapshot, k, attached, recent⟩

end Machine
end CoopCpu
