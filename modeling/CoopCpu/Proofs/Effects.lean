import CoopCpu.Core.Effect
import CoopCpu.Core.Execution
import CoopCpu.Proofs.MemoryAccess
import CoopCpu.Proofs.Slots
/-!
# Proofs.Effects — an instruction carried out piece by piece comes to its effect

`Action.perform` changes the core as it goes, `Core.evaluate` looks at everything first and `Core.apply` changes it at
the end.  `run_perform` says that the two ways agree for every instruction: no piece of an instruction changes anything
before the last of its checks has passed.  The lemmas above it follow the actions; each says which effect an action
comes to, and `run_look_bind` puts a look in front of one.
-/
namespace CoopCpu

namespace Core

/-- What an instruction that was evaluated leaves behind. -/
def commit (c : Core) : Except Fault Effect → Except Fault Unit × Core
  | .ok effect => (.ok (), c.apply effect)
  | .error fault => (.error fault, c)

theorem updateActive_updateActive (c : Core) (first second : ThreadSlot → ThreadSlot) :
    (c.updateActive first).updateActive second = c.updateActive fun t => second (first t) :=
  congrArg (fun slots => { c with slots }) (Slots.update_update c.slots c.active first second)

end Core

/-! ## Calculations on bytes and on numbers -/

namespace Byte

theorem plus?_eq (a b : Byte) : plus? a b = ofNat? (a.toNat + b.toNat) := by
  unfold plus? ofNat?
  by_cases h : a.toNat + b.toNat < 256
  · rw [if_pos h, if_pos h, UInt8.ofNat_add, UInt8.ofNat_toNat, UInt8.ofNat_toNat]
  · rw [if_neg h, if_neg h]

theorem minus?_eq (a b : Byte) : minus? a b = difference? a.toNat b.toNat := by
  unfold minus? difference? ofNat?
  have hlt : a.toNat - b.toNat < 256 := Nat.lt_of_le_of_lt (Nat.sub_le _ _) a.toNat_lt
  by_cases h : b ≤ a
  · have hle : b.toNat ≤ a.toNat := UInt8.le_iff_toNat_le.1 h
    rw [if_pos h, if_pos hle, if_pos hlt]
    refine congrArg some (UInt8.toNat_inj.1 ?_)
    rw [UInt8.toNat_sub_of_le a b h, UInt8.toNat_ofNat', Nat.mod_eq_of_lt hlt]
  · rw [if_neg h, if_neg fun hle => h (UInt8.le_iff_toNat_le.2 hle)]

theorem times?_eq (a b : Byte) : times? a b = ofNat? (a.toNat * b.toNat) := by
  unfold times? ofNat?
  by_cases h : a.toNat * b.toNat < 256
  · rw [if_pos h, if_pos h, UInt8.ofNat_mul, UInt8.ofNat_toNat, UInt8.ofNat_toNat]
  · rw [if_neg h, if_neg h]

theorem shiftRight_eq (a : Byte) : some (a >>> 1) = ofNat? (a.toNat / 2) := by
  have hlt : a.toNat / 2 < 256 := Nat.lt_of_le_of_lt (Nat.div_le_self _ _) a.toNat_lt
  unfold ofNat?
  rw [if_pos hlt]
  refine congrArg some (UInt8.toNat_inj.1 ?_)
  rw [UInt8.toNat_shiftRight, UInt8.toNat_ofNat', Nat.mod_eq_of_lt hlt, Nat.shiftRight_eq_div_pow]
  rfl

theorem ofWord?_of_lt {x : UInt16} (h : x.toNat < 256) : ofWord? x = some x.toUInt8 :=
  if_pos (UInt16.lt_iff_toNat_lt.2 h)

theorem ofWord?_of_le {x : UInt16} (h : 256 ≤ x.toNat) : ofWord? x = none :=
  if_neg fun hlt => Nat.not_lt.2 h (UInt16.lt_iff_toNat_lt.1 hlt)

theorem toNat_toUInt8_of_lt {x : UInt16} (h : x.toNat < 256) : x.toUInt8.toNat = x.toNat := by
  rw [UInt16.toNat_toUInt8, Nat.mod_eq_of_lt h]

/-- A sum with an operand that is no byte is no byte. -/
theorem plus?_ofWord? (v : Byte) (x : UInt16) :
    ((ofWord? x).bind fun b => plus? v b) = ofNat? (v.toNat + x.toNat) := by
  by_cases h : x.toNat < 256
  · rw [ofWord?_of_lt h, Option.bind_some, plus?_eq, toNat_toUInt8_of_lt h]
  · rw [ofWord?_of_le (Nat.le_of_not_lt h), Option.bind_none]
    exact (if_neg (by omega)).symm

/-- Nor is a difference: the operand is greater than any byte. -/
theorem minus?_ofWord? (v : Byte) (x : UInt16) :
    ((ofWord? x).bind fun b => minus? v b) = difference? v.toNat x.toNat := by
  by_cases h : x.toNat < 256
  · rw [ofWord?_of_lt h, Option.bind_some, minus?_eq, toNat_toUInt8_of_lt h]
  · have hv : v.toNat < 256 := v.toNat_lt
    rw [ofWord?_of_le (Nat.le_of_not_lt h), Option.bind_none]
    exact (if_neg (by omega)).symm

end Byte

/-! ## Actions -/

namespace Action

open CoopCpu.Core

theorem run_bind {α β : Type} (x : Action α) (f : α → Action β) (c : Core) :
    (x >>= f).run c =
      match x.run c with
      | (.ok a, c') => (f a).run c'
      | (.error fault, c') => (.error fault, c') := by
  show Action.run (ExceptT.bind x f) c = _
  unfold Action.run ExceptT.bind ExceptT.run ExceptT.mk
  rw [StateT.run_bind]
  cases (StateT.run x c : Id (Except Fault α × Core)) with
  | mk outcome c' =>
    cases outcome with
    | ok a => rfl
    | error fault => rfl

theorem run_get_bind {β : Type} (f : Core → Action β) (c : Core) : ((get : Action Core) >>= f).run c = (f c).run c := by
  rw [run_bind]
  rfl

theorem run_look {α : Type} (sight : Core → Except Fault α) (c : Core) : (look sight).run c = (sight c, c) := by
  unfold look
  rw [run_get_bind]
  cases sight c with
  | ok a => rfl
  | error fault => rfl

/-- **A look in front of an action that comes to an effect**: the whole comes to the effect that follows the look. -/
theorem run_look_bind {α : Type} {sight : Core → Except Fault α} {f : α → Action Unit} {g : α → Except Fault Effect}
    {c : Core} (h : ∀ a, sight c = .ok a → (f a).run c = c.commit (g a)) :
    (look sight >>= f).run c = c.commit (sight c >>= g) := by
  rw [run_bind, run_look]
  cases hs : sight c with
  | ok a => exact h a hs
  | error fault => rfl

theorem run_setRegister (code value : Byte) (c : Core) :
    (setRegister code value).run c = c.commit (writable code >>= fun r => pure (.setRegister r value)) :=
  run_look_bind fun _ _ => rfl

theorem run_alter (code : Byte) (change : Byte → Byte) (c : Core) :
    (alter code change).run c =
      c.commit (writable code >>= fun r => pure (.setRegister r (change (c.activeSlot.register r)))) := by
  unfold alter readGeneral
  rw [run_bind, run_look]
  cases h : writable code with
  | ok r =>
    show (setRegister code (change (c.activeSlot.register r))).run c = _
    rw [run_setRegister, h]
    rfl
  | error fault => rfl

theorem run_calculate (code : Byte) (result : Byte → Option Byte) (c : Core) :
    (calculate code result).run c = c.commit (c.calculation code result) := by
  unfold calculate readGeneral calculation
  rw [run_bind, run_look]
  cases h : writable code with
  | error fault => rfl
  | ok r =>
    show (settle code (result (c.activeSlot.register r))).run c =
      (.ok (), c.apply (.calculate r (result (c.activeSlot.register r))))
    cases result (c.activeSlot.register r) with
    | none => rfl
    | some value =>
      show Action.run (setRegister code value >>= fun _ => setFlags fun flags => { flags with overflow := false }) c = _
      rw [run_bind, run_setRegister, h]
      exact congrArg (Prod.mk _) (updateActive_updateActive c (fun t => t.setRegister r value)
        fun t => { t with flags := { t.flags with overflow := false } })

theorem run_jump (target : Address) (c : Core) : (jump target).run c = c.commit (c.jumpTo target) :=
  run_look_bind fun _ _ => rfl

theorem run_writeByte {c : Core} {a : Address} (value : Byte) :
    (writeByte a value).run c = c.commit (c.memory.read a >>= fun _ => pure (.store a value)) := by
  unfold writeByte
  rw [run_bind, run_look]
  cases h : c.memory.read a with
  | ok b => rw [Memory.write_of_read h]; rfl
  | error fault => rw [Memory.write_of_read_error h]; rfl

/-- The three pieces of a test-and-set.  The flags change before the last access to memory, but that access cannot fail:
the bit has been read. -/
theorem run_testAndSet (a : Address) (i : BitIndex) (c : Core) :
    (do
      let bit ← readBit a i
      setFlags fun _ => Flags.ofCompare bit.toUInt16 1
      writeBit a i true : Action Unit).run c =
      c.commit (c.memory.read a >>= fun b =>
        pure (.testAndSet (Flags.ofCompare (Byte.bit b i).toUInt16 1) a (Byte.withBit b i true))) := by
  unfold readBit writeBit
  rw [run_bind, run_look]
  cases h : c.memory.read a with
  | error fault => rw [Memory.readBit_of_read_error h]; rfl
  | ok b =>
    rw [Memory.readBit_of_read h]
    show Action.run (setFlags _ >>= fun _ => look (fun c => c.memory.writeBit a i true) >>= _) c = _
    rw [run_bind]
    show Action.run (look (fun c => c.memory.writeBit a i true) >>= _) (c.updateActive _) = _
    rw [run_bind, run_look]
    have hw : (c.updateActive fun t => { t with flags := Flags.ofCompare (Byte.bit b i).toUInt16 1 }).memory.writeBit a i
        true = .ok (c.memory.set a (Byte.withBit b i true)) := Memory.writeBit_of_read h i true
    rw [hw]
    rfl

/-- **An instruction carried out piece by piece comes to its effect**, or to its fault on an unchanged core. -/
theorem run_perform (c : Core) (i : Instruction) : (perform i).run c = c.commit (c.evaluate i) := by
  cases i with
  | halt => rfl
  | yield => rfl
  | stop =>
    rw [perform, evaluate, run_get_bind]
    by_cases h : c.slots.activeCount ≤ 1
    · rw [if_pos h, if_pos h]; rfl
    · rw [if_neg h, if_neg h]; rfl
  | spawn target =>
    refine run_look_bind fun _ _ => ?_
    rw [run_get_bind]
    cases h : c.slots.firstInactive with
    | some slot => rfl
    | none => rfl
  | jump target => exact run_jump target c
  | jumpRegister code => exact run_look_bind fun target _ => run_jump target c
  | jumpIfZero code target =>
    refine run_look_bind fun value _ => ?_
    by_cases h : value = 0
    · rw [if_pos h, if_pos h]; exact run_jump target c
    · rw [if_neg h, if_neg h]; rfl
  | jumpUnlessZero code target =>
    refine run_look_bind fun value _ => ?_
    by_cases h : value = 0
    · rw [if_neg (not_not_intro h), if_pos h]; rfl
    · rw [if_pos h, if_neg h]; exact run_jump target c
  | load position code => exact run_look_bind fun value _ => run_setRegister code value c
  | store code position => exact run_look_bind fun value _ => run_writeByte value
  | loadIndirect source destination =>
    exact run_look_bind fun position _ => run_look_bind fun value _ => run_setRegister destination value c
  | move source destination => exact run_look_bind fun value _ => run_setRegister destination value c
  | setValue value code => exact run_setRegister code value c
  | add source destination =>
    refine run_look_bind fun operand _ => ?_
    rw [run_calculate]
    simp only [Byte.plus?_ofWord?]
  | subtract source destination =>
    refine run_look_bind fun operand _ => ?_
    rw [run_calculate]
    simp only [Byte.minus?_ofWord?]
  | increment code =>
    show (calculate code fun v => Byte.plus? v 1).run c = _
    rw [run_calculate]
    simp only [Byte.plus?_eq]
    rfl
  | decrement code =>
    show (calculate code fun v => Byte.minus? v 1).run c = _
    rw [run_calculate]
    simp only [Byte.minus?_eq]
    rfl
  | clear code => exact run_setRegister code 0 c
  | shiftLeft code =>
    show (calculate code fun v => Byte.times? v 2).run c = _
    rw [run_calculate]
    simp only [Byte.times?_eq]
    rfl
  | shiftRight code =>
    show (calculate code fun v => some (v >>> 1)).run c = _
    rw [run_calculate]
    simp only [Byte.shiftRight_eq]
    rfl
  | bitAnd source destination => exact run_look_bind fun value _ => run_alter destination _ c
  | bitOr source destination => exact run_look_bind fun value _ => run_alter destination _ c
  | bitXor source destination => exact run_look_bind fun value _ => run_alter destination _ c
  | bitNot code => exact run_alter code _ c
  | compare left right => exact run_look_bind fun l _ => run_look_bind fun r _ => rfl
  | testAndSet position offset =>
    rw [perform, evaluate]
    by_cases h : offset.toNat < 8
    · rw [dif_pos h, dif_pos h]; exact run_testAndSet position ⟨offset.toNat, h⟩ c
    · rw [dif_neg h, dif_neg h]; rfl

end Action
end CoopCpu
