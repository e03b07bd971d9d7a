import CoopCpu.Host
import CoopCpu.Proofs.Comparison
import Mathlib.Data.Nat.Find
import Mathlib.Logic.Function.Iterate
/-!
# Proofs.Halting — a machine halts once, and for the reason that it gives

A tick halts a running machine exactly if its instruction or its service has a fault, and that fault is recorded
(`tickFault?`, `tick_outcome`).  A halted machine does not tick any more, so whoever asks it to go on gets it back as it
is, and running a machine that has ticked for a while comes to the same end as running it at once (`runsTo_iterate_iff`).
Over a list of requests the recorded reason is therefore that of the first request that halts the machine
(`Machine.HaltedFor`, `halting_final`).
-/
namespace CoopCpu

namespace Machine

variable {m m' : Machine} {r : Request} {fault : Fault}

/-! ## One tick -/

/-- The fault with which the next tick ends, of its instruction or else of its service. -/
def tickFault? (m : Machine) : Option Fault :=
  if m.halted then none else m.nextStep.2.or (Device.serviceAll m.executed.core.memory m.devices).2.2

/-- **A tick halts a running machine exactly if it ends with a fault**, which becomes the reason. -/
theorem tick_outcome (running : m.halted = false) :
    m.tick.halted = m.tickFault?.isSome ∧ m.tick.reason = m.tickFault?.or m.reason := by
  unfold tickFault?
  rw [running]
  cases hstep : m.nextStep.2 with
  | some fault =>
    have hexecuted := executed_of_fault running hstep
    rw [tick_of_fault running (by rw [hexecuted]), hexecuted]
    exact ⟨rfl, rfl⟩
  | none =>
    have hexecuted := executed_of_done hstep
    have unfaulted : m.executed.halted = false := by rw [hexecuted]; exact running
    have hreason : m.executed.reason = m.reason := by rw [hexecuted]
    cases hround : (Device.serviceAll m.executed.core.memory m.devices).2.2 with
    | some fault =>
      rw [tick_of_failed_round running unfaulted hround]
      exact ⟨rfl, rfl⟩
    | none =>
      rw [tick_of_round running unfaulted hround]
      exact ⟨unfaulted, hreason⟩

/-- A machine is halted exactly if it has a reason, and no slot has two outcomes of its last comparison. -/
structure Accounted (m : Machine) : Prop where
  halted_eq : m.halted = m.reason.isSome
  flags : m.core.Exclusive

theorem Accounted.reason_eq_none (h : m.Accounted) (running : m.halted = false) : m.reason = none := by
  have unreasoned := h.halted_eq
  rw [running] at unreasoned
  exact Option.isNone_iff_eq_none.1 (Option.isSome_eq_false_iff.1 unreasoned.symm)

theorem Accounted.tick (h : m.Accounted) : m.tick.Accounted := by
  cases running : m.halted with
  | true => rw [tick_of_halted running]; exact h
  | false =>
    obtain ⟨hhalted, hreason⟩ := tick_outcome running
    refine ⟨?_, ?_⟩
    · rw [hhalted, hreason, h.reason_eq_none running, Option.or_none]
    · intro j
      rw [slots_tick m running]
      exact h.flags.stepped m.stepped j

/-! ## Running to the end -/

theorem iterate_tick (m : Machine) : ∀ n : Nat, Machine.tick^[n] m = ticks n m
  | 0 => rfl
  | n + 1 => by rw [Function.iterate_succ_apply', iterate_tick m n, ticks_succ]

theorem iterate_of_halted (h : m.halted = true) (n : Nat) : Machine.tick^[n] m = m :=
  Function.iterate_fixed (tick_of_halted h) n

theorem iterate_eq_of_halted {a b : Nat} (ha : (Machine.tick^[a] m).halted = true)
    (hb : (Machine.tick^[b] m).halted = true) : Machine.tick^[a] m = Machine.tick^[b] m :=
  calc Machine.tick^[a] m
    _ = Machine.tick^[b] (Machine.tick^[a] m) := (iterate_of_halted ha b).symm
    _ = Machine.tick^[a] (Machine.tick^[b] m) := by rw [← Function.iterate_add_apply, Nat.add_comm, Function.iterate_add_apply]
    _ = Machine.tick^[b] m := iterate_of_halted hb a

theorem runsTo_iff_exists : m.RunsTo m' ↔ ∃ n, m' = Machine.tick^[n] m ∧ m'.halted = true := by
  unfold RunsTo runWithin
  constructor
  · rintro ⟨limit, h⟩
    by_cases halted : (ticks limit m).halted = true
    · rw [if_pos halted] at h
      obtain rfl := Option.some.inj h
      exact ⟨limit, (iterate_tick m limit).symm, halted⟩
    · rw [if_neg halted] at h
      cases h
  · rintro ⟨n, rfl, halted⟩
    rw [iterate_tick] at halted ⊢
    exact ⟨n, if_pos halted⟩

/-- **Running a machine ends in the first halted state** of its ticks, if there is one. -/
theorem runsTo_iff : m.RunsTo m' ↔
    ∃ n, m' = Machine.tick^[n] m ∧ m'.halted = true ∧ ∀ k, k < n → (Machine.tick^[k] m).halted = false := by
  rw [runsTo_iff_exists]
  constructor
  · rintro ⟨n, rfl, halted⟩
    have some_halted : ∃ n, (Machine.tick^[n] m).halted = true := ⟨n, halted⟩
    have first := Nat.find_spec some_halted
    exact ⟨Nat.find some_halted, iterate_eq_of_halted halted first, halted,
      fun k hk => Bool.eq_false_iff.2 (Nat.find_min some_halted hk)⟩
  · rintro ⟨n, hn, halted, -⟩
    exact ⟨n, hn, halted⟩

theorem RunsTo.unique {m'' : Machine} (h : m.RunsTo m') (h' : m.RunsTo m'') : m' = m'' := by
  obtain ⟨a, rfl, ha⟩ := runsTo_iff_exists.1 h
  obtain ⟨b, rfl, hb⟩ := runsTo_iff_exists.1 h'
  exact iterate_eq_of_halted ha hb

/-- **A machine that has ticked for a while runs to where it would have run at once.** -/
theorem runsTo_iterate_iff (n : Nat) : (Machine.tick^[n] m).RunsTo m' ↔ m.RunsTo m' := by
  rw [runsTo_iff_exists, runsTo_iff_exists]
  constructor
  · rintro ⟨k, rfl, halted⟩
    exact ⟨k + n, (Function.iterate_add_apply _ k n m).symm, halted⟩
  · rintro ⟨k, rfl, halted⟩
    refine ⟨k, ?_, halted⟩
    rw [← Function.iterate_add_apply, Nat.add_comm, Function.iterate_add_apply, iterate_of_halted halted]

theorem runsTo_of_halted (h : m.halted = true) : m.RunsTo m' ↔ m' = m := by
  rw [runsTo_iff_exists]
  constructor
  · rintro ⟨n, rfl, -⟩
    exact iterate_of_halted h n
  · rintro rfl
    exact ⟨0, rfl, h⟩

theorem Accounted.iterate (h : m.Accounted) : ∀ n : Nat, (Machine.tick^[n] m).Accounted
  | 0 => h
  | n + 1 => by
    rw [Function.iterate_succ_apply']
    exact (h.iterate n).tick

/-! ## One request -/

/-- A request to a running machine halts it for this fault. -/
inductive Halts (m : Machine) : Request → Fault → Prop
  | tick {fault : Fault} (h : m.tickFault? = some fault) : Halts m .tick fault
  /-- The run ends with this tick. -/
  | run {fault : Fault} {n : Nat} (running : ∀ k, k ≤ n → (Machine.tick^[k] m).halted = false)
    (h : (Machine.tick^[n] m).tickFault? = some fault) : Halts m .run fault
  | halt (fault : Fault) : Halts m (.halt fault) fault

theorem halt_of_running (running : m.halted = false) (fault : Fault) :
    m.halt fault = { m with halted := true, reason := some fault } := by
  unfold halt
  rw [running]
  rfl

theorem halt_of_halted (h : m.halted = true) (fault : Fault) : m.halt fault = m := if_pos h

theorem tryMemory_eq {ε : Type} (m : Machine) (x : Except ε Memory) :
    ∃ memory, m.tryMemory x = { m with core := { m.core with memory } } := by
  cases x with
  | ok memory => exact ⟨memory, rfl⟩
  | error e => exact ⟨m.core.memory, rfl⟩

theorem load?_of_unloaded {text : String} (h : (Request.load text).loaded? = none) : (m.load? text).getD m = m := by
  unfold load?
  rw [show Snapshot.ofText? text = none from h]
  rfl

theorem Answers.unique {m'' : Machine} (h : m.Answers r m') (h' : m.Answers r m'') : m' = m'' := by
  cases h with
  | run ends =>
    cases h' with
    | run ends' => exact ends.unique ends'
  | _ => cases h'; rfl

/-- **A request that loads no state** leaves the reason and the flags of a machine alone, or makes it tick or halts it. -/
theorem Accounted.answers (h : m.Accounted) (answer : m.Answers r m') (unloaded : r.loaded? = none) : m'.Accounted := by
  cases answer with
  | tick => exact h.tick
  | run ends =>
    obtain ⟨n, rfl, -⟩ := runsTo_iff_exists.1 ends
    exact h.iterate n
  | halt fault =>
    cases running : m.halted with
    | true => rw [halt_of_halted running]; exact h
    | false => rw [halt_of_running running]; exact ⟨rfl, h.flags⟩
  | write _ _ | writeBit _ _ _ | place _ _ =>
    obtain ⟨memory, hmemory⟩ := tryMemory_eq m _
    rw [hmemory]
    exact ⟨h.halted_eq, h.flags⟩
  | load text => rw [load?_of_unloaded unloaded]; exact h
  | devices change => exact ⟨h.halted_eq, h.flags⟩

theorem Answers.kept (h : m.halted = true) (answer : m.Answers r m') (unloaded : r.loaded? = none) :
    m'.halted = true ∧ m'.reason = m.reason := by
  cases answer with
  | tick => rw [tick_of_halted h]; exact ⟨h, rfl⟩
  | run ends => obtain rfl := (runsTo_of_halted h).1 ends; exact ⟨h, rfl⟩
  | halt fault => rw [halt_of_halted h]; exact ⟨h, rfl⟩
  | write _ _ | writeBit _ _ _ | place _ _ =>
    obtain ⟨memory, hmemory⟩ := tryMemory_eq m _
    rw [hmemory]
    exact ⟨h, rfl⟩
  | load text => rw [load?_of_unloaded unloaded]; exact ⟨h, rfl⟩
  | devices change => exact ⟨h, rfl⟩

theorem Accounted.reason_run_iff (h : m.Accounted) (running : m.halted = false) (ends : m.RunsTo m') :
    m'.reason = some fault ↔ m.Halts .run fault := by
  obtain ⟨n, rfl, halted, before⟩ := runsTo_iff.1 ends
  cases n with
  | zero => rw [Function.iterate_zero_apply, running] at halted; cases halted
  | succ n =>
    have last := before n (Nat.lt_succ_self n)
    have recorded : (Machine.tick^[n + 1] m).reason = (Machine.tick^[n] m).tickFault? := by
      rw [Function.iterate_succ_apply', (tick_outcome last).2, (h.iterate n).reason_eq_none last, Option.or_none]
    rw [recorded]
    constructor
    · exact fun hfault => .run (fun k hk => before k (Nat.lt_succ_of_le hk)) hfault
    · rintro (_ | @⟨_, k, running_until, hfault⟩)
      -- the machine has halted after tick `k` and not before, so that tick is the last one
      have halted_after : (Machine.tick^[k + 1] m).halted = true := by
        rw [Function.iterate_succ_apply', (tick_outcome (running_until k (Nat.le_refl k))).1, hfault]
        rfl
      have : n + 1 ≤ k + 1 := Nat.le_of_not_lt fun hlt => by
        rw [before (k + 1) hlt] at halted_after
        cases halted_after
      have : k < n + 1 := Nat.lt_of_not_le fun hle => by
        rw [running_until (n + 1) hle] at halted
        cases halted
      obtain rfl : n = k := by omega
      exact hfault

/-- **A running machine records a reason exactly if the request halts it for that reason.** -/
theorem Accounted.reason_iff (h : m.Accounted) (running : m.halted = false) (answer : m.Answers r m')
    (unloaded : r.loaded? = none) : m'.reason = some fault ↔ m.Halts r fault := by
  have unreasoned := h.reason_eq_none running
  cases answer with
  | tick =>
    rw [(tick_outcome running).2, unreasoned, Option.or_none]
    exact ⟨.tick, fun h => by cases h with | tick h => exact h⟩
  | run ends => exact h.reason_run_iff running ends
  | halt given =>
    rw [halt_of_running running, Option.some.injEq]
    exact ⟨fun h => h ▸ .halt given, fun h => by cases h; rfl⟩
  | write _ _ | writeBit _ _ _ | place _ _ =>
    obtain ⟨memory, hmemory⟩ := tryMemory_eq m _
    rw [hmemory, unreasoned]
    exact ⟨fun h => (by cases h), fun h => (by cases h)⟩
  | load text =>
    rw [load?_of_unloaded unloaded, unreasoned]
    exact ⟨fun h => (by cases h), fun h => (by cases h)⟩
  | devices change =>
    rw [show ({ m with devices := change m.devices } : Machine).reason = none from unreasoned]
    exact ⟨fun h => (by cases h), fun h => (by cases h)⟩

/-! ## All requests -/

/-- The first of the requests that halts the machine halts it for this fault. -/
inductive HaltedFor : Machine → List Request → Fault → Prop
  | now {m : Machine} {r : Request} {rest : List Request} {fault : Fault} (running : m.halted = false)
    (h : m.Halts r fault) : HaltedFor m (r :: rest) fault
  | later {m m₁ : Machine} {r : Request} {rest : List Request} {fault : Fault} (answer : m.Answers r m₁)
    (running : m₁.halted = false) (h : HaltedFor m₁ rest fault) : HaltedFor m (r :: rest) fault

variable {requests : List Request}

theorem Accounted.answersAll (h : m.Accounted) (answers : m.AnswersAll requests m')
    (unloaded : ∀ r ∈ requests, r.loaded? = none) : m'.Accounted := by
  induction answers with
  | nil => exact h
  | cons first _ ih =>
    rw [List.forall_mem_cons] at unloaded
    exact ih (h.answers first unloaded.1) unloaded.2

/-- **The reason of a machine that has halted** is the one it had before, or that of the first request that halted it. -/
theorem Accounted.reason_answersAll_iff (h : m.Accounted) (answers : m.AnswersAll requests m')
    (unloaded : ∀ r ∈ requests, r.loaded? = none) :
    m'.reason = some fault ↔ m.reason = some fault ∨ m.halted = false ∧ m.HaltedFor requests fault := by
  induction answers with
  | nil => exact ⟨.inl, fun h => h.resolve_right fun h => (by cases h.2)⟩
  | @cons m m₁ m' r rest first _ ih =>
    rw [List.forall_mem_cons] at unloaded
    obtain ⟨unloaded, others⟩ := unloaded
    rw [ih (h.answers first unloaded) others]
    cases running : m.halted with
    | true =>
      obtain ⟨kept_halted, kept_reason⟩ := first.kept running unloaded
      rw [kept_halted, kept_reason]
      exact or_congr_right ⟨fun h => (by cases h.1), fun h => (by cases h.1)⟩
    | false =>
      rw [h.reason_iff running first unloaded, h.reason_eq_none running]
      constructor
      · rintro (halts | ⟨running₁, later⟩)
        · exact .inr ⟨rfl, .now running halts⟩
        · exact .inr ⟨rfl, .later first running₁ later⟩
      · rintro (hnone | ⟨-, _ | @⟨_, m₂, _, _, _, answer, running₁, later⟩⟩)
        · cases hnone
        · exact .inl ‹_›
        · obtain rfl := answer.unique first
          exact .inr ⟨running₁, later⟩

theorem answers_of_halted (h : m.halted = true) (drives : r.drives = true) : m.Answers r m' ↔ m' = m := by
  cases r with
  | tick =>
    refine ⟨fun answer => ?_, ?_⟩
    · cases answer
      exact tick_of_halted h
    · rintro rfl
      have ticked : m'.Answers .tick m'.tick := .tick
      rwa [tick_of_halted h] at ticked
  | run =>
    refine ⟨fun answer => ?_, fun e => .run ((runsTo_of_halted h).2 e)⟩
    cases answer with
    | run ends => exact (runsTo_of_halted h).1 ends
  | halt fault =>
    refine ⟨fun answer => ?_, ?_⟩
    · cases answer
      exact halt_of_halted h fault
    · rintro rfl
      have asked : m'.Answers (.halt fault) (m'.halt fault) := .halt fault
      rwa [halt_of_halted h fault] at asked
  | _ => cases drives

/-- **Whoever asks a halted machine to go on or to stop gets it back as it is.** -/
theorem answersAll_of_halted (h : m.halted = true) : ∀ {requests : List Request}, (∀ r ∈ requests, r.drives = true) →
    (m.AnswersAll requests m' ↔ m' = m)
  | [], _ => ⟨fun answers => by cases answers; rfl, fun e => e ▸ .nil⟩
  | r :: rest, drives => by
    rw [List.forall_mem_cons] at drives
    have same {m₁ : Machine} : m.Answers r m₁ ↔ m₁ = m := answers_of_halted h drives.1
    have others : m.AnswersAll rest m' ↔ m' = m := answersAll_of_halted h drives.2
    constructor
    · intro answers
      cases answers with
      | cons first rest =>
        obtain rfl := same.1 first
        exact others.1 rest
    · exact fun e => .cons (same.2 rfl) (others.2 e)

/-- **Halting is final, and its reason is told.**  A machine that was built and asked for anything but to load a state is
halted exactly if it has a reason, which is the fault of the first request that halted it, and no slot has two outcomes of
its last comparison.  Once it is halted, ticking, running and halting it change nothing, its devices included.  Running it
after any number of ticks gives what running it at once gives, the first halted state of its ticks. -/
theorem halting_final {base : Address} (built : BuiltWith base m) (unloaded : ∀ r ∈ requests, r.loaded? = none)
    (answers : m.AnswersAll requests m') :
    m'.Accounted ∧ (∀ fault, m'.reason = some fault ↔ m.HaltedFor requests fault) ∧
    (m'.halted = true → ∀ later, (∀ r ∈ later, r.drives = true) → ∀ m'', m'.AnswersAll later m'' ↔ m'' = m') ∧
    ∀ m'', (∀ n, (Machine.tick^[n] m').RunsTo m'' ↔ m'.RunsTo m'') ∧
      (m'.RunsTo m'' ↔ ∃ n, m'' = Machine.tick^[n] m' ∧ m''.halted = true ∧
        ∀ k, k < n → (Machine.tick^[k] m').halted = false) := by
  obtain ⟨memory, table, rfl⟩ := built.eq_new
  have start : (Machine.new memory base table).Accounted := ⟨rfl, Core.exclusive_starting memory base⟩
  have running : (Machine.new memory base table).halted = false := rfl
  have unreasoned : (Machine.new memory base table).reason = none := rfl
  refine ⟨start.answersAll answers unloaded, fun fault => ?_, fun halted later drives m'' =>
    answersAll_of_halted halted drives, fun m'' => ⟨fun n => runsTo_iterate_iff n, runsTo_iff⟩⟩
  rw [start.reason_answersAll_iff answers unloaded, unreasoned, running]
  exact ⟨fun h => (h.resolve_left nofun).2, fun h => .inr ⟨rfl, h⟩⟩

/-- A machine that compares two registers and then stops. -/
def comparing : Machine := Machine.new ⟨#[0, 0, 0, 0, 24, 0, 1, 0, 0, 0, 0, 0]⟩ 4 Table.builtIn

/-- It is given a device with a byte to deliver, ticks once, runs to its end and is asked to halt once more. -/
def comparingRequests : List Request :=
  [.devices fun _ => [.scripted { Scripted.new "tape" 0 with enabled := true, queue := [7] }], .tick, .run,
    .halt .noActiveThreads]

/-- What is left of it. -/
def compared : Machine where
  core :=
    { memory := ⟨#[0, 7, 0, 0, 24, 0, 1, 0, 0, 0, 0, 0]⟩
      slots := (Slots.starting 12).update 0 fun t => { t with flags := Flags.ofCompare 0 0 }
      active := 0
      base := 4 }
  halted := true
  reason := some .haltInstruction
  table := Table.builtIn
  devices := [.scripted { Scripted.new "tape" 0 with enabled := true, record := #[0] }]

theorem comparing_halting : BuiltWith 4 comparing ∧ (∀ r ∈ comparingRequests, r.loaded? = none) ∧
    comparing.AnswersAll comparingRequests compared ∧ compared.Accounted ∧
    comparing.HaltedFor comparingRequests .haltInstruction ∧
    ∀ m', compared.AnswersAll [.run, .tick, .halt .noActiveThreads] m' ↔ m' = compared := by
  have built : BuiltWith 4 comparing := .new _ _
  have unloaded : ∀ r ∈ comparingRequests, r.loaded? = none := by
    unfold comparingRequests
    simp [Request.loaded?]
  have answers : comparing.AnswersAll comparingRequests compared := by
    have halted : compared.Answers (.halt .noActiveThreads) compared := .halt .noActiveThreads
    refine .cons (.devices _) (.cons .tick ?_)
    refine @AnswersAll.cons _ compared _ _ _ (.run ⟨1, ?_⟩) (.cons halted .nil)
    decide
  obtain ⟨accounted, reason, final, -⟩ := halting_final built unloaded answers
  exact ⟨built, unloaded, answers, accounted, (reason _).1 rfl, final rfl _ (by decide)⟩

end Machine
end CoopCpu
