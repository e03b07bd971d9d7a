import CoopCpu.Proofs.ManualState
import CoopCpu.Proofs.Ticks
/-!
# Proofs.ManualTable — the core follows the manual

Each row of the manual's table and the effect of the same instruction on a core come to the same state, or both to none
(`obey_of`).  The rows are put together from a few phrases, and so is the proof: there is one lemma for each phrase
(`alter_of`, `calculate_of`, `goto_of`, `store_of`, `testAndSet_of`), and `outcome_bind` puts a reading in front of one.
A tick without a fault is then the fetch and the row of the manual, and nothing else (`executed_by_manual`).
-/
namespace CoopCpu

namespace Byte

/-- An exact result as a byte, if it is one. -/
def ofInt? (n : Int) : Option Byte := if 0 ≤ n ∧ n ≤ 255 then some (UInt8.ofNat n.toNat) else none

theorem ofNat?_eq (n : Nat) : ofNat? n = ofInt? n := by
  unfold ofNat? ofInt?
  by_cases h : n < 256
  · rw [if_pos h, if_pos (by omega), Int.toNat_natCast]
  · rw [if_neg h, if_neg (by omega)]

theorem difference?_eq (n m : Nat) : difference? n m = ofInt? ((n : Int) - m) := by
  unfold difference?
  by_cases h : m ≤ n
  · rw [if_pos h, ofNat?_eq, Int.ofNat_sub h]
  · unfold ofInt?
    rw [if_neg h, if_neg (by omega)]

end Byte

namespace Manual
namespace State

/-- What the manual makes of a fault and of an effect. -/
def outcome (c : Core) : Except Fault Effect → Option State
  | .ok effect => some (State.of (c.apply effect))
  | .error _ => none

/-- **A reading in front of a phrase.** -/
theorem outcome_bind {α β : Type} {x : Except Fault α} {y : Option β} {view : α → β} (hxy : y = x.toOption.map view)
    {f : α → Except Fault Effect} {g : β → Option State} {c : Core} (h : ∀ a, x = .ok a → g (view a) = outcome c (f a)) :
    y >>= g = outcome c (x >>= f) := by
  subst hxy
  cases hx : x with
  | ok a => exact h a hx
  | error fault => rfl

theorem outcome_lowByte (c : Core) (code : Byte) {f : Byte → Except Fault Effect} {g : Nat → Option State}
    (h : ∀ b : Byte, g b.toNat = outcome c (f b)) :
    ((State.of c).read code.toNat >>= fun v => g (v % 256)) = outcome c (c.byteRegister code >>= f) := by
  have hlow : (c.byteRegister code >>= f) = (c.register code >>= fun x => f x.toUInt8) := by
    unfold Core.byteRegister
    cases c.register code with
    | ok x => rfl
    | error fault => rfl
  rw [hlow]
  refine outcome_bind (read_of c code) fun x _ => ?_
  rw [← h, UInt16.toNat_toUInt8]

/-! ## Phrases -/

theorem writable_of_lt {code : Byte} (h : code.toNat < 8) : Core.writable code = .ok ⟨code.toNat, h⟩ := by
  unfold Core.writable Register.general?
  rw [dif_pos h]

theorem writable_of_le {code : Byte} (h : ¬ code.toNat < 8) :
    Core.writable code = .error (.illegalRegisterWrite code) := by
  unfold Core.writable Register.general?
  rw [dif_neg h]

theorem slot_setRegister (t : ThreadSlot) (r : RegisterIndex) (value : Byte) :
    Slot.of (t.setRegister r value) =
      { Slot.of t with register := fun r' => if r' = r then value.toNat else (Slot.of t).register r' } := by
  refine congrArg (fun register => { Slot.of t with register }) (funext fun r' => ?_)
  show ((t.setRegister r value).register r').toNat = if r' = r then value.toNat else (t.register r').toNat
  rw [ThreadSlot.register_setRegister]
  by_cases h : r' = r
  · rw [if_pos h, if_pos h]
  · rw [if_neg h, if_neg h]

theorem alter_of (c : Core) (code : Byte) {f : Nat → Nat} {g : Byte → Byte} (h : ∀ v : Byte, f v.toNat = (g v).toNat) :
    (State.of c).alter code.toNat f =
      outcome c (Core.writable code >>= fun r => pure (.setRegister r (g (c.activeSlot.register r)))) := by
  unfold alter
  by_cases hlt : code.toNat < 8
  · rw [dif_pos hlt, writable_of_lt hlt]
    refine congrArg some (change_of c c.active ?_)
    rw [slot_setRegister]
    refine congrArg (fun register => { Slot.of c.activeSlot with register }) (funext fun r => ?_)
    by_cases hr : r = ⟨code.toNat, hlt⟩
    · rw [if_pos hr, if_pos hr, hr]; exact h _
    · rw [if_neg hr, if_neg hr]
  · rw [dif_neg hlt, writable_of_le hlt]
    rfl

theorem write_of (c : Core) (code value : Byte) :
    (State.of c).write code.toNat value.toNat =
      outcome c (Core.writable code >>= fun r => pure (.setRegister r value)) :=
  alter_of (f := fun _ => value.toNat) (g := fun _ => value) c code fun _ => rfl

theorem bitwise_of (c : Core) (source destination : Byte) {f : Nat → Nat → Nat} {g : Byte → Byte → Byte}
    (h : ∀ v x : Byte, f v.toNat x.toNat = (g v x).toNat) :
    ((State.of c).read source.toNat >>= fun x => (State.of c).alter destination.toNat fun v => f v (x % 256)) =
      outcome c (c.bitwise source destination g) :=
  outcome_lowByte (g := fun x => (State.of c).alter destination.toNat fun v => f v x) c source fun x =>
    alter_of (g := fun v => g v x) c destination fun v => h v x

theorem settle_of (c : Core) (r : RegisterIndex) (v : Int) :
    (State.of c).settle r.val v = some (State.of (c.apply (.calculate r (Byte.ofInt? v)))) := by
  unfold settle Byte.ofInt?
  by_cases h : 0 ≤ v ∧ v ≤ 255
  · have hlt : v.toNat < 256 := by omega
    have hv : (UInt8.ofNat v.toNat).toNat = v.toNat := UInt8.toNat_ofNat_of_lt' hlt
    rw [if_pos h, if_pos h]
    unfold write alter
    rw [dif_pos r.isLt]
    show some (((State.of c).change c.active _).change c.active _) = _
    rw [change_change]
    refine congrArg some (change_of c c.active ?_)
    have hset := slot_setRegister c.activeSlot r (UInt8.ofNat v.toNat)
    rw [hv] at hset
    exact (congrArg (fun t => { t with overflow := false }) hset).symm
  · rw [if_neg h, if_neg h]
    exact congrArg some (change_of c c.active rfl)

theorem calculate_of (c : Core) (code : Byte) {f : Nat → Int} {result : Byte → Option Byte}
    (h : ∀ v : Byte, result v = Byte.ofInt? (f v.toNat)) :
    (State.of c).calculate code.toNat f = outcome c (c.calculation code result) := by
  unfold calculate Core.calculation
  by_cases hlt : code.toNat < 8
  · rw [dif_pos hlt, writable_of_lt hlt]
    show _ = some (State.of (c.apply (.calculate ⟨code.toNat, hlt⟩ (result (c.activeSlot.register ⟨code.toNat, hlt⟩)))))
    rw [h]
    exact settle_of c ⟨code.toNat, hlt⟩ _
  · rw [dif_neg hlt, writable_of_le hlt]
    rfl

theorem goto_of (c : Core) (target : Address) :
    (State.of c).goto target.toNat = outcome c (c.jumpTo target) := by
  unfold goto Core.jumpTo Core.checkTarget
  show (if target.toNat < c.base.toNat then none else _) = _
  by_cases h : target < c.base
  · rw [if_pos h, if_pos (UInt16.lt_iff_toNat_lt.1 h)]
    rfl
  · rw [if_neg h, if_neg fun hlt => h (UInt16.lt_iff_toNat_lt.2 hlt)]
    exact congrArg some (change_of c c.active rfl)

theorem store_of (c : Core) (a : Address) (value : Byte) :
    (State.of c).store a.toNat value.toNat = outcome c (c.memory.read a >>= fun _ => pure (.store a value)) := by
  unfold store
  rw [memory_length_of]
  by_cases h : a.toNat < c.memory.size
  · obtain ⟨b, hb⟩ := (Memory.get?_eq_some_iff c.memory a).2 h
    rw [if_pos h, (Memory.read_eq_ok_iff _ _ _).2 hb, memory_set_of]
    rfl
  · rw [if_neg h]
    cases hr : c.memory.read a with
    | ok b => exact absurd (Memory.lt_size_of_read hr) h
    | error fault => rfl

theorem compare_of (c : Core) (left right : UInt16) :
    (State.of c).compare left.toNat right.toNat =
      State.of (c.updateActive fun t => { t with flags := Flags.ofCompare left right }) := by
  refine change_of c c.active ?_
  have hequal : (left.toNat == right.toNat) = (left == right) := by
    rw [Bool.eq_iff_iff, beq_iff_eq, beq_iff_eq, UInt16.toNat_inj]
  have hless : decide (left.toNat < right.toNat) = decide (left < right) :=
    decide_eq_decide.2 UInt16.lt_iff_toNat_lt.symm
  have hgreater : decide (right.toNat < left.toNat) = decide (left > right) :=
    decide_eq_decide.2 UInt16.lt_iff_toNat_lt.symm
  rw [hequal, hless, hgreater]
  rfl

/-- The row of the lock: with the bit set, memory stays; with the bit clear, its weight is added to the byte. -/
theorem testAndSet_of (c : Core) (a : Address) (i : BitIndex) :
    ((State.of c).load a.toNat >>= fun byte =>
      if byte / weight i.val % 2 = 1 then some ((State.of c).compare 1 1)
      else ((State.of c).compare 0 1).store a.toNat (byte + weight i.val)) =
      outcome c (c.memory.read a >>= fun b =>
        pure (.testAndSet (Flags.ofCompare (Byte.bit b i).toUInt16 1) a (Byte.withBit b i true))) := by
  refine outcome_bind (load_of c a) fun b hb => ?_
  have hodd : _ = decide (b.toNat / weight i.val % 2 = 1) := Byte.bit_eq_decide b i
  cases hbit : Byte.bit b i with
  | true =>
    rw [hbit] at hodd
    rw [if_pos (of_decide_eq_true hodd.symm), Byte.withBit_of_bit hbit]
    -- the core writes the byte it has read, the manual writes nothing
    have hset := Memory.set_of_get? ((Memory.read_eq_ok_iff _ _ _).1 hb)
    show _ = some (State.of { c.updateActive _ with memory := c.memory.set a b })
    rw [hset]
    exact congrArg some (compare_of c 1 1)
  | false =>
    rw [hbit] at hodd
    have hadd : _ = b.toNat + weight i.val := Byte.toNat_withBit hbit
    rw [if_neg (of_decide_eq_false hodd.symm), ← hadd]
    have hcompare : (State.of c).compare 0 1 = _ := compare_of c 0 1
    rw [hcompare, store_of]
    show outcome _ (c.memory.read a >>= _) = _
    rw [hb]
    rfl

/-! ## The table -/

theorem toNat_eq_zero {x : UInt16} : x.toNat = 0 ↔ x = 0 := ⟨fun h => UInt16.toNat_inj.1 h, fun h => by rw [h]; rfl⟩

/-- **Each row of the manual says what its instruction comes to**, and none where it comes to a fault. -/
theorem obey_of (c : Core) (i : Instruction) : (State.of c).obey i = outcome c (c.evaluate i) := by
  cases i with
  | halt => rfl
  | yield =>
    show some { State.of c with active := (State.of c).next } = _
    rw [next_of]
    rfl
  | stop =>
    rw [obey, Core.evaluate, liveCount_of]
    by_cases h : c.slots.activeCount ≤ 1
    · rw [if_pos h, if_pos h]; rfl
    · have hchange := change_of (f := fun t => { t with pc := 0 }) (g := fun t => { t with pc := 0 }) c c.active rfl
      rw [if_neg h, if_neg h]
      exact congrArg (fun s : State => some { s with active := c.active + 1 }) hchange
  | spawn target =>
    rw [obey, Core.evaluate, Core.checkTarget]
    show (if target.toNat < c.base.toNat then none else _) = _
    by_cases h : target < c.base
    · rw [if_pos h, if_pos (UInt16.lt_iff_toNat_lt.1 h)]; rfl
    · rw [if_neg h, if_neg fun hlt => h (UInt16.lt_iff_toNat_lt.2 hlt), vacant_of]
      cases hf : c.slots.firstInactive with
      | none => rfl
      | some i =>
        have hchange := change_of (f := fun t => { t with pc := target.toNat }) (g := fun t => { t with pc := target }) c i rfl
        exact congrArg (fun s : State => some { s with active := i }) hchange
  | jump target => exact goto_of c target
  | jumpRegister code => exact outcome_bind (read_of c code) fun target _ => goto_of c target
  | jumpIfZero code target =>
    refine outcome_bind (read_of c code) fun value _ => ?_
    by_cases h : value = 0
    · rw [if_pos h, if_pos (toNat_eq_zero.2 h)]; exact goto_of c target
    · rw [if_neg h, if_neg fun e => h (toNat_eq_zero.1 e)]; rfl
  | jumpUnlessZero code target =>
    refine outcome_bind (read_of c code) fun value _ => ?_
    by_cases h : value = 0
    · rw [if_pos h, if_neg (not_not_intro (toNat_eq_zero.2 h))]; rfl
    · rw [if_neg h, if_pos fun e => h (toNat_eq_zero.1 e)]; exact goto_of c target
  | load position code => exact outcome_bind (load_of c position) fun value _ => write_of c code value
  | store code position => exact outcome_lowByte c code fun value => store_of c position value
  | loadIndirect source destination =>
    exact outcome_bind (read_of c source) fun position _ =>
      outcome_bind (load_of c position) fun value _ => write_of c destination value
  | move source destination => exact outcome_lowByte c source fun value => write_of c destination value
  | setValue value code => exact write_of c code value
  | add source destination =>
    exact outcome_bind (read_of c source) fun operand _ => calculate_of c destination fun v => Byte.ofNat?_eq _
  | subtract source destination =>
    exact outcome_bind (read_of c source) fun operand _ => calculate_of c destination fun v => Byte.difference?_eq _ _
  | increment code =>
    rw [obey, Core.evaluate]
    exact calculate_of c code fun v => Byte.ofNat?_eq _
  | decrement code =>
    rw [obey, Core.evaluate]
    exact calculate_of c code fun v => Byte.difference?_eq _ _
  | clear code => exact write_of c code 0
  | shiftLeft code =>
    rw [obey, Core.evaluate]
    refine calculate_of c code fun v => ?_
    rw [Byte.ofNat?_eq, Int.natCast_mul, Int.mul_comm]
    rfl
  | shiftRight code =>
    rw [obey, Core.evaluate]
    exact calculate_of c code fun v => Byte.ofNat?_eq _
  | bitAnd source destination =>
    exact bitwise_of c source destination fun v x => (UInt8.toNat_and v x).symm
  | bitOr source destination =>
    exact bitwise_of c source destination fun v x => (UInt8.toNat_or v x).symm
  | bitXor source destination =>
    exact bitwise_of c source destination fun v x => (UInt8.toNat_xor v x).symm
  | bitNot code => exact alter_of c code fun v => (UInt8.toNat_not v).symm
  | compare left right =>
    refine outcome_bind (read_of c left) fun l _ => outcome_bind (read_of c right) fun r _ => ?_
    exact congrArg some (compare_of c l r)
  | testAndSet position offset =>
    rw [obey, Core.evaluate]
    by_cases h : offset.toNat < 8
    · rw [if_neg (by omega), dif_pos h]
      exact testAndSet_of c position ⟨offset.toNat, h⟩
    · rw [if_pos (by omega), dif_neg h]
      rfl

/-! ## The fetch -/

theorem fetch_of_ready {c : Core} (h : c.Ready) :
    (State.of c).fetch = some (c.fetchAddress.toNat, State.of c.fetched) := by
  have hslot : (if (State.of c).live c.active then c.active else (State.of c).next) = c.fetchedSlot := by
    rw [live_of, next_of, Core.fetchedSlot_eq]
  have hzero : c.fetchAddress.toNat ≠ 0 := fun e => Core.fetchAddress_ne_zero h.1 (toNat_eq_zero.1 e)
  have hroom := h.2
  have hadd : c.fetchAddress.toNat + 4 = (c.fetchAddress + 4).toNat := by
    rw [UInt16.toNat_add]
    exact (Nat.mod_eq_of_lt hroom).symm
  have hchange := change_of (f := fun t => { t with pc := c.fetchAddress.toNat + 4 })
    (g := fun t => { t with pc := t.pc + 4 }) c c.fetchedSlot
    (congrArg (fun pc => { Slot.of (c.slots.get c.fetchedSlot) with pc }) hadd)
  unfold fetch
  rw [show (State.of c).active = c.active from rfl, hslot]
  show (if c.fetchAddress.toNat = 0 ∨ 65535 < c.fetchAddress.toNat + 4 then none
    else some (c.fetchAddress.toNat, { (State.of c).change c.fetchedSlot (fun t =>
      { t with pc := c.fetchAddress.toNat + 4 }) with active := c.fetchedSlot })) = _
  rw [if_neg (by omega), Core.fetched_eq, hchange]
  rfl

end State
end Manual

namespace Machine

/-- **A tick without a fault does what the manual says, and nothing else.**  Before the devices are served the core is
the one that the manual's row for the fetched instruction leads to, and everything else is as it was. -/
theorem executed_by_manual (m : Machine) (running : m.halted = false) (unfaulted : m.executed.halted = false) :
    ∃ (a : Address) (i : Instruction) (s s' : Manual.State),
      (Manual.State.of m.core).fetch = some (a.toNat, s) ∧ m.table.decode m.core.memory a = .ok i ∧
      s.obey i = some s' ∧ (∀ c, Manual.State.of c = s' ↔ c = m.executed.core) ∧
      m.executed = { m with core := m.executed.core } := by
  have hdone := done_of_unfaulted running unfaulted
  have hexecuted := executed_of_done hdone
  have hstepped := Core.stepped m.table m.core
  change Core.Stepped m.table m.core m.nextStep.1 m.nextStep.2 at hstepped
  rw [hdone] at hstepped
  generalize m.nextStep.1 = c at hstepped hexecuted
  cases hstepped with
  | @done ready i effect decoded he =>
    have hobey : (Manual.State.of m.core.fetched).obey i = _ := Manual.State.obey_of m.core.fetched i
    rw [he] at hobey
    refine ⟨_, i, _, _, Manual.State.fetch_of_ready ready, decoded, hobey, fun c => ?_, ?_⟩
    · rw [hexecuted]
      exact ⟨Manual.State.of_inj, fun e => by rw [e]⟩
    · rw [hexecuted]

/-- A machine that is about to add its program counter to register `A`. -/
def counterSum : Machine := Machine.new ⟨#[0, 0, 0, 0, 13, 0x82, 0, 0]⟩ 4 Table.builtIn

theorem counterSum_by_manual : counterSum.halted = false ∧ counterSum.executed.halted = false ∧
    ∃ (a : Address) (i : Instruction) (s s' : Manual.State),
      (Manual.State.of counterSum.core).fetch = some (a.toNat, s) ∧
      counterSum.table.decode counterSum.core.memory a = .ok i ∧ s.obey i = some s' ∧
      (∀ c, Manual.State.of c = s' ↔ c = counterSum.executed.core) ∧
      counterSum.executed = { counterSum with core := counterSum.executed.core } :=
  ⟨rfl, by decide, executed_by_manual counterSum rfl (by decide)⟩

end Machine
end CoopCpu
