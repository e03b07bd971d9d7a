import CoopCpu.Manual.Objection
import CoopCpu.Proofs.ManualTable
/-!
# Proofs.Objections — which fault a tick reports when several things are wrong

The checks of an instruction come one after another, and each looks at what the ones before it have let pass.  `RefusedBy`
says that a reading has the fault of the first objection of a list, if one applies, and no fault otherwise; `cons_bind` puts
a check in front of others.  So every instruction is refused by its objections (`refusedBy_evaluate`), and a tick halts
before its service by the first of its own (`tick_by_first_objection`).
-/
namespace CoopCpu

open Manual (Objection)
open Manual.Objection (unwritable)

namespace Manual.Objection

/-- A reading has the fault of the first objection that applies, and none if none applies. -/
def RefusedBy {α : Type} (objections : List Objection) (x : Except Fault α) : Prop := faultOf? x = first objections

variable {α β : Type} {o : Objection} {rest : List Objection} {x : Except Fault α}

theorem first_cons (o : Objection) (rest : List Objection) :
    first (o :: rest) = if o.applies then some o.fault else first rest := by
  unfold first
  cases h : o.applies <;> simp [h]

/-- **The objections before the first one do not apply.** -/
theorem first_eq_some_iff {objections : List Objection} {fault : Fault} : first objections = some fault ↔
    ∃ before o after, objections = before ++ o :: after ∧ o.applies = true ∧ o.fault = fault ∧
      ∀ o' ∈ before, o'.applies = false := by
  simp only [first, Option.map_eq_some_iff, List.find?_eq_some_iff_append, Bool.not_eq_true']
  constructor
  · rintro ⟨o, ⟨applies, before, after, rfl, passed⟩, rfl⟩
    exact ⟨before, o, after, rfl, applies, rfl, passed⟩
  · rintro ⟨before, o, after, rfl, applies, rfl, passed⟩
    exact ⟨o, ⟨applies, before, after, rfl, passed⟩, rfl⟩

theorem first_eq_none_iff {objections : List Objection} :
    first objections = none ↔ ∀ o ∈ objections, o.applies = false := by
  simp [first]

theorem refusedBy_nil (a : α) : RefusedBy [] (.ok a : Except Fault α) := rfl

theorem refusedBy_of_applies (h : o.applies = true) : RefusedBy (o :: rest) (.error o.fault : Except Fault α) := by
  simp [RefusedBy, first_cons, faultOf?, h]

theorem RefusedBy.of_passed (others : RefusedBy rest x) (h : o.applies = false) : RefusedBy (o :: rest) x := by
  simpa [RefusedBy, first_cons, h] using others

/-- **A check in front of others**: they count only for what it lets pass. -/
theorem RefusedBy.cons_bind {f : α → Except Fault β} (check : RefusedBy [o] x)
    (others : ∀ a, x = .ok a → RefusedBy rest (f a)) : RefusedBy (o :: rest) (x >>= f) := by
  unfold RefusedBy at check
  rw [first_cons] at check
  unfold RefusedBy
  rw [first_cons]
  cases x with
  | ok a =>
    cases h : o.applies with
    | true => simp [h, faultOf?] at check
    | false => exact others a rfl
  | error fault =>
    cases h : o.applies with
    | true => simpa [h, faultOf?, bind, Except.bind] using check
    | false => simp [h, faultOf?, first] at check

theorem RefusedBy.map (h : RefusedBy [o] x) (f : α → β) : RefusedBy [o] (x.map f) := (faultOf?_map f x).trans h

end Manual.Objection

open Manual.Objection

namespace Core

open Manual (State)

/-! ## What an instruction looks at -/

theorem refusedBy_register (c : Core) (code : Byte) : RefusedBy [(State.of c).unreadable code] (c.register code) := by
  have applies : ((State.of c).unreadable code).applies = (c.register code).toOption.isNone := by
    simp [State.unreadable, State.read_of]
  unfold RefusedBy
  rw [first_cons, applies]
  unfold register registerOf
  cases Register.ofCode? code with
  | some r => rfl
  | none => rfl

theorem refusedBy_byteRegister (c : Core) (code : Byte) :
    RefusedBy [(State.of c).unreadable code] (c.byteRegister code) :=
  (c.refusedBy_register code).map _

theorem value_of {c : Core} {code : Byte} {v : UInt16} (h : c.register code = .ok v) :
    (State.of c).value code = v.toNat := by
  simp [State.value, State.read_of, h, Except.toOption]

theorem refusedBy_writable (code : Byte) : RefusedBy [unwritable code] (writable code) := by
  unfold RefusedBy
  rw [first_cons]
  by_cases h : code.toNat < 8
  · simp [unwritable, State.writable_of_lt h, faultOf?, first, h]
  · simp [unwritable, State.writable_of_le h, faultOf?, Nat.le_of_not_lt h]

theorem refusedBy_checkTarget (c : Core) (target : Address) :
    RefusedBy [(State.of c).belowBase target.toNat] (c.checkTarget target) := by
  unfold RefusedBy checkTarget
  rw [first_cons]
  by_cases h : target < c.base
  · simp [State.belowBase, State.of, UInt16.lt_iff_toNat_lt.1 h, h, faultOf?]
  · have hle : ¬ target.toNat < c.base.toNat := fun hlt => h (UInt16.lt_iff_toNat_lt.2 hlt)
    simp [State.belowBase, State.of, h, hle, faultOf?, first]

theorem refusedBy_read (c : Core) (a : Address) : RefusedBy [(State.of c).beyondEnd a.toNat] (c.memory.read a) := by
  unfold RefusedBy
  rw [first_cons]
  by_cases h : a.toNat < c.memory.size
  · obtain ⟨b, hb⟩ := (Memory.get?_eq_some_iff c.memory a).2 h
    simp [State.beyondEnd, State.memory_length_of, (Memory.read_eq_ok_iff _ _ _).2 hb, faultOf?, first, h]
  · have hle := Nat.le_of_not_lt h
    simp [State.beyondEnd, State.memory_length_of, Memory.read_of_le hle, Memory.outOfBounds, faultOf?, hle]

theorem refusedBy_jumpTo (c : Core) (target : Address) :
    RefusedBy [(State.of c).belowBase target.toNat] (c.jumpTo target) :=
  (c.refusedBy_checkTarget target).cons_bind fun _ _ => refusedBy_nil _

theorem refusedBy_calculation (c : Core) (code : Byte) (result : Byte → Option Byte) :
    RefusedBy [unwritable code] (c.calculation code result) :=
  (refusedBy_writable code).cons_bind fun _ _ => refusedBy_nil _

theorem refusedBy_bitwise (c : Core) (source destination : Byte) (join : Byte → Byte → Byte) :
    RefusedBy [(State.of c).unreadable source, unwritable destination] (c.bitwise source destination join) :=
  (c.refusedBy_byteRegister source).cons_bind fun _ _ =>
    (refusedBy_writable destination).cons_bind fun _ _ => refusedBy_nil _

/-! ## Instructions -/

/-- **An instruction is refused by the first of its objections that applies**, and by nothing else. -/
theorem refusedBy_evaluate (c : Core) (i : Instruction) : RefusedBy ((State.of c).objections i) (c.evaluate i) := by
  cases i with
  | halt => rfl
  | yield => exact refusedBy_nil _
  | stop =>
    rw [evaluate, State.objections, State.liveCount_of]
    by_cases h : c.slots.activeCount ≤ 1
    · rw [if_pos h]
      exact refusedBy_of_applies (by simpa using h)
    · rw [if_neg h]
      exact (refusedBy_nil _).of_passed (by simpa using h)
  | spawn target =>
    refine (c.refusedBy_checkTarget target).cons_bind fun _ _ => ?_
    cases free : c.slots.firstInactive with
    | some slot =>
      have inactive := Slots.activeAt_of_firstInactive free
      refine (refusedBy_nil _).of_passed (decide_eq_false fun live => ?_)
      have := live slot
      rw [State.live_of, inactive] at this
      cases this
    | none =>
      have active := Slots.activeAt_of_firstInactive_none free
      exact refusedBy_of_applies (decide_eq_true fun i => by rw [State.live_of, active])
  | jump target => exact c.refusedBy_jumpTo target
  | jumpRegister code =>
    refine (c.refusedBy_register code).cons_bind fun target read => ?_
    rw [value_of read]
    exact c.refusedBy_jumpTo target
  | jumpIfZero code target =>
    refine (c.refusedBy_register code).cons_bind fun value read => ?_
    rw [value_of read]
    by_cases h : value = 0
    · rw [if_pos h, if_pos (State.toNat_eq_zero.2 h)]
      exact c.refusedBy_jumpTo target
    · rw [if_neg h, if_neg fun e => h (State.toNat_eq_zero.1 e)]
      exact refusedBy_nil _
  | jumpUnlessZero code target =>
    refine (c.refusedBy_register code).cons_bind fun value read => ?_
    rw [value_of read]
    by_cases h : value = 0
    · rw [if_pos h, if_neg (not_not_intro (State.toNat_eq_zero.2 h))]
      exact refusedBy_nil _
    · rw [if_neg h, if_pos fun e => h (State.toNat_eq_zero.1 e)]
      exact c.refusedBy_jumpTo target
  | load position code =>
    exact (c.refusedBy_read position).cons_bind fun _ _ =>
      (refusedBy_writable code).cons_bind fun _ _ => refusedBy_nil _
  | store code position =>
    exact (c.refusedBy_byteRegister code).cons_bind fun _ _ =>
      (c.refusedBy_read position).cons_bind fun _ _ => refusedBy_nil _
  | loadIndirect source destination =>
    refine (c.refusedBy_register source).cons_bind fun position read => ?_
    rw [value_of read]
    exact (c.refusedBy_read position).cons_bind fun _ _ =>
      (refusedBy_writable destination).cons_bind fun _ _ => refusedBy_nil _
  | move source destination =>
    exact (c.refusedBy_byteRegister source).cons_bind fun _ _ =>
      (refusedBy_writable destination).cons_bind fun _ _ => refusedBy_nil _
  | add source destination | subtract source destination =>
    exact (c.refusedBy_register source).cons_bind fun _ _ => c.refusedBy_calculation destination _
  | increment code | decrement code | shiftLeft code | shiftRight code =>
    rw [evaluate]
    exact c.refusedBy_calculation code _
  | setValue _ code | clear code | bitNot code =>
    exact (refusedBy_writable code).cons_bind fun _ _ => refusedBy_nil _
  | bitAnd source destination | bitOr source destination | bitXor source destination =>
    exact c.refusedBy_bitwise source destination _
  | compare left right =>
    exact (c.refusedBy_register left).cons_bind fun _ _ =>
      (c.refusedBy_register right).cons_bind fun _ _ => refusedBy_nil _
  | testAndSet position offset =>
    rw [evaluate, State.objections]
    by_cases h : offset.toNat < 8
    · rw [dif_pos h]
      refine RefusedBy.of_passed ?_ (decide_eq_false (by omega))
      exact (c.refusedBy_read position).cons_bind fun _ _ => refusedBy_nil _
    · rw [dif_neg h]
      exact refusedBy_of_applies (decide_eq_true (by omega))

/-! ## Steps -/

/-- What may be wrong with the next step: there is nothing to fetch, or no instruction where it is fetched from, or the
instruction has objections of its own. -/
def objections (t : Table) (c : Core) : List Objection :=
  ⟨∀ i, ((State.of c).slot i).pc = 0, .noActiveThreads⟩ ::
  ⟨65531 < c.fetchAddress.toNat, .programCounterOverflow c.fetchAddress⟩ ::
  match t.decode c.memory c.fetchAddress with
  | .error fault => [⟨true, fault⟩]
  | .ok i => (State.of c.fetched).objections i

theorem fault_step_of_ready (t : Table) {c : Core} (h : c.Ready) : (c.step t).2 = faultOf? (c.outcome t) := by
  rw [step_of_ready t h]
  cases c.outcome t <;> rfl

/-- **A step ends with the fault of the first objection that applies**, and otherwise without one. -/
theorem fault_step (t : Table) (c : Core) : (c.step t).2 = first (c.objections t) := by
  have idle : (∀ i, ((State.of c).slot i).pc = 0) ↔ c.slots.activeCount = 0 := by
    rw [Slots.activeCount_eq_zero_iff]
    exact forall_congr' fun i => State.toNat_eq_zero
  unfold objections
  rw [first_cons]
  by_cases active : c.slots.activeCount = 0
  · simp [idle, active, step_of_idle t active]
  · rw [if_neg (by simpa [idle] using active), first_cons]
    by_cases room : c.fetchAddress.toNat + 4 < 65536
    · have ready : c.Ready := ⟨active, room⟩
      rw [if_neg (by rw [decide_eq_true_iff]; omega), fault_step_of_ready t ready, outcome]
      cases decoded : t.decode c.memory c.fetchAddress with
      | error fault => rfl
      | ok i => exact c.fetched.refusedBy_evaluate i
    · rw [if_pos (by rw [decide_eq_true_iff]; omega), step_of_end t active room]

end Core

/-- **The manual has a row for an instruction exactly if no objection to it applies.** -/
theorem Manual.State.obey_eq_none_iff (c : Core) (i : Instruction) :
    (State.of c).obey i = none ↔ ∃ o ∈ (State.of c).objections i, o.applies = true := by
  have refused : faultOf? (c.evaluate i) = _ := c.refusedBy_evaluate i
  rw [obey_of]
  cases he : c.evaluate i with
  | ok effect =>
    rw [he] at refused
    have passed := first_eq_none_iff.1 refused.symm
    simp only [outcome, reduceCtorEq, false_iff, not_exists, not_and, Bool.not_eq_true]
    exact passed
  | error fault =>
    rw [he] at refused
    obtain ⟨before, o, after, split, applies, -⟩ := first_eq_some_iff.1 refused.symm
    exact ⟨fun _ => ⟨o, by simp [split], applies⟩, fun _ => rfl⟩

namespace Machine

/-- **A tick halts before its service exactly by the first objection to it.**  The objections come in this order: no slot is
active; the counter of the fetched slot is above 65531; no instruction can be decoded there; and then those of the
instruction that was decoded.  If one applies, the tick records the fault of the first that does and no device is served;
otherwise it records none, and the devices are served. -/
theorem tick_by_first_objection (m : Machine) (running : m.halted = false) :
    (∀ fault, first (m.core.objections m.table) = some fault →
      m.executed = { m with core := m.executed.core, halted := true, reason := some fault } ∧ m.tick = m.executed) ∧
    (first (m.core.objections m.table) = none →
      m.executed = { m with core := m.executed.core } ∧ m.tick = m.executed.serviceDevices) := by
  have step : m.nextStep.2 = first (m.core.objections m.table) := Core.fault_step m.table m.core
  rw [← step]
  constructor
  · intro fault faulted
    have hexecuted := executed_of_fault running faulted
    have halted : m.executed.halted = true := by rw [hexecuted]
    refine ⟨?_, tick_of_fault running halted⟩
    rw [hexecuted]
  · intro done
    have hexecuted := executed_of_done done
    have unfaulted : m.executed.halted = false := by rw [hexecuted, running]
    refine ⟨?_, tick_of_done running unfaulted⟩
    rw [hexecuted]

/-- A machine about to load from beyond the end of memory into a register that cannot be written. -/
def loadingNowhere : Machine where
  core := {
    memory := ⟨#[0, 0, 0, 0, 8, 0, 200, 9]⟩
    slots := Slots.starting 4
    active := 0
    base := 4 }
  halted := false
  reason := none
  table := Table.builtIn
  devices := [.scripted ⟨"tape", 0, true, [1], #[]⟩]

theorem loadingNowhere_halts : loadingNowhere.halted = false ∧
    (loadingNowhere.core.objections loadingNowhere.table).map Objection.applies = [false, false, true, true] ∧
    loadingNowhere.executed = { loadingNowhere with
      core := loadingNowhere.executed.core, halted := true, reason := some (.memoryOutOfBounds 200) } ∧
    loadingNowhere.tick = loadingNowhere.executed := by
  have found : first (loadingNowhere.core.objections loadingNowhere.table) = some (.memoryOutOfBounds 200) := by decide
  exact ⟨rfl, by decide, (tick_by_first_objection loadingNowhere rfl).1 _ found⟩

end Machine
end CoopCpu
