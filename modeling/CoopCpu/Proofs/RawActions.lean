import CoopCpu.Proofs.Effects
import CoopCpu.Proofs.RawReadings
import CoopCpu.Raw.Machine
/-!
# Proofs.RawActions — a raw action follows the action it stands for

`Follows` says that a raw action does to every core what an action does to it and meets no trap.  It is enough to see
this for the pieces: a look follows a look, a change a change, and one action after another follows the one after the
other (`Follows.bind`).  So every instruction is followed (`follows_perform`).
-/
namespace CoopCpu
namespace Raw
namespace Action

variable {α β γ δ : Type}

/-! ## Runs of actions -/

theorem run_bind (x : Action α) (f : α → Action β) (c : Core) :
    (x >>= f).run c =
      match x.run c with
      | .ok (.ok a, c') => (f a).run c'
      | .ok (.error fault, c') => .ok (.error fault, c')
      | .error trap => .error trap := by
  show StateT.run (ExceptT.run (ExceptT.bind x f)) c = _
  unfold Action.run ExceptT.bind ExceptT.run ExceptT.mk
  rw [StateT.run_bind]
  cases (StateT.run x c : Checked (Except Fault α × Core)) with
  | error trap => rfl
  | ok r =>
    obtain ⟨outcome, c'⟩ := r
    cases outcome with
    | ok a => rfl
    | error fault => rfl

theorem run_look (sight : Core → Reading α) (c : Core) :
    (look sight).run c = (sight c).run.map fun outcome => (outcome, c) := by
  show ((sight c).run >>= fun outcome => pure (outcome, c)) = _
  cases (sight c).run with
  | ok outcome => rfl
  | error trap => rfl

theorem run_change (f : Core → Checked Core) (c : Core) : (change f).run c = (f c).map fun c' => (Except.ok (), c') := by
  show (f c >>= fun c' => pure (Except.ok (), c')) = _
  cases f c with
  | ok c' => rfl
  | error trap => rfl

/-- A value that was checked is there. -/
@[simp]
theorem ensure_bind (a : α) (f : α → Action β) : (ensure (.ok a) >>= f) = f a := by
  apply ExceptT.ext
  apply StateT.ext
  intro c
  have := run_bind (ensure (.ok a)) f c
  exact this

/-! ## One action that follows another -/

/-- The raw action does to every core what the action does to it.  The value it comes to is a view of the other's. -/
def Follows (view : α → β) (x : Action β) (y : CoopCpu.Action α) : Prop :=
  ∀ c : CoopCpu.Core, x.run c.raw = .ok ((y.run c).1.map view, (y.run c).2.raw)

namespace Follows

variable {view : α → β} {view' : γ → δ} {x x' : Action β} {y y' : CoopCpu.Action α}

protected theorem pure (a : α) : Follows view (Pure.pure (view a)) (Pure.pure a) := fun _ => rfl

protected theorem throw (fault : Fault) : Follows view (MonadExcept.throw fault) (MonadExcept.throw fault) := fun _ => rfl

protected theorem get : Follows CoopCpu.Core.raw MonadState.get MonadState.get := fun _ => rfl

protected theorem look {sight : Core → Reading β} {sight' : CoopCpu.Core → Except Fault α}
    (h : ∀ c, sight c.raw = faulting ((sight' c).map view)) : Follows view (look sight) (CoopCpu.Action.look sight') := by
  intro c
  rw [run_look, h, CoopCpu.Action.run_look]
  rfl

protected theorem change {f : Core → Checked Core} {g : CoopCpu.Core → CoopCpu.Core}
    (h : ∀ c, f c.raw = .ok (g c).raw) : Follows id (change f) (modify g) := by
  intro c
  rw [run_change, h]
  rfl

protected theorem bind {f : β → Action δ} {g : α → CoopCpu.Action γ} (hx : Follows view x y)
    (hf : ∀ a, Follows view' (f (view a)) (g a)) : Follows view' (x >>= f) (y >>= g) := by
  intro c
  rw [run_bind, CoopCpu.Action.run_bind, hx c]
  cases y.run c with
  | mk outcome c' =>
    cases outcome with
    | ok a => exact hf a c'
    | error fault => rfl

protected theorem ite {p : Prop} [Decidable p] (h : Follows view x y) (h' : Follows view x' y') :
    Follows view (if p then x else x') (if p then y else y') := by
  by_cases hp : p
  · rw [if_pos hp, if_pos hp]; exact h
  · rw [if_neg hp, if_neg hp]; exact h'

end Follows

/-! ## Pieces of instructions -/

open Follows

theorem follows_readRegister (code : Byte) : Follows id (readRegister code) (CoopCpu.Action.readRegister code) := by
  refine Follows.look fun c => ?_
  rw [Core.register_raw, Except.map_id]
  rfl

theorem follows_readLowByte (code : Byte) : Follows id (readLowByte code) (CoopCpu.Action.readLowByte code) := by
  refine Follows.look fun c => ?_
  rw [Core.register_raw, Except.map_id]
  unfold CoopCpu.Core.byteRegister
  cases c.register code with
  | ok value => rfl
  | error fault => rfl

theorem follows_readGeneral (code : Byte) : Follows id (readGeneral code) (CoopCpu.Action.readGeneral code) := by
  refine Follows.look fun c => ?_
  rw [Core.writable_raw, Core.running_raw, Except.map_id]
  cases CoopCpu.Core.writable code with
  | ok r => exact congrArg checked (item_of_getElem? (Core.getElem?_registers c.activeSlot r))
  | error fault => rfl

theorem follows_setRegister (code value : Byte) :
    Follows id (setRegister code value) (CoopCpu.Action.setRegister code value) := by
  have hplace : Follows Fin.val (look fun c => c.writable code)
      (CoopCpu.Action.look fun _ => CoopCpu.Core.writable code) := Follows.look fun c => Core.writable_raw c code
  refine hplace.bind fun r => Follows.change fun c => ?_
  simp only [setIfInBounds_val]
  exact Core.updateRunning_raw c fun t => t.setRegister r value

theorem follows_setFlags (f : Flags → Flags) : Follows id (setFlags f) (CoopCpu.Action.setFlags f) :=
  Follows.change fun c => Core.updateRunning_raw c _

theorem follows_setCounter (i : SlotIndex) (pc : Address) :
    Follows id (setCounter i.val pc) (CoopCpu.Action.setCounter i pc) := by
  refine Follows.change fun c => ?_
  show (updateSlot c.slots i.val _ >>= _) = _
  rw [updateSlot_val]
  rfl

theorem follows_setActive (i : SlotIndex) : Follows id (setActive i.val) (CoopCpu.Action.setActive i) :=
  Follows.change fun _ => rfl

theorem follows_readByte (a : Address) : Follows id (readByte a) (CoopCpu.Action.readByte a) := by
  refine Follows.look fun c => ?_
  rw [Except.map_id]
  rfl

theorem follows_checkTarget (target : Address) :
    Follows id (look fun c => c.checkTarget target) (CoopCpu.Action.look fun c => c.checkTarget target) := by
  refine Follows.look fun c => ?_
  rw [Core.checkTarget_raw, Except.map_id]
  rfl

theorem follows_setMemory (memory : Memory) : Follows id (setMemory memory) (modify fun c => { c with memory }) :=
  Follows.change fun _ => rfl

theorem follows_writeByte (a : Address) (value : Byte) :
    Follows id (writeByte a value) (CoopCpu.Action.writeByte a value) := by
  have hwrite : Follows id (look fun c => faulting (c.memory.write a value))
      (CoopCpu.Action.look fun c => c.memory.write a value) := by
    refine Follows.look fun c => ?_
    rw [Except.map_id]
    rfl
  exact hwrite.bind follows_setMemory

theorem follows_readBit (a : Address) {offset : Byte} (h : offset.toNat < 8) :
    Follows id (readBit a offset) (CoopCpu.Action.readBit a ⟨offset.toNat, h⟩) := by
  refine Follows.look fun c => ?_
  rw [readBit_eq _ _ h, Except.map_id]
  rfl

theorem follows_writeBit (a : Address) {offset : Byte} (h : offset.toNat < 8) (value : Bool) :
    Follows id (writeBit a offset value) (CoopCpu.Action.writeBit a ⟨offset.toNat, h⟩ value) := by
  have hwrite : Follows id (look fun c => Raw.writeBit c.memory a offset value)
      (CoopCpu.Action.look fun c => c.memory.writeBit a ⟨offset.toNat, h⟩ value) := by
    refine Follows.look fun c => ?_
    rw [writeBit_eq _ _ h, Except.map_id]
    rfl
  exact hwrite.bind follows_setMemory

theorem follows_jump (target : Address) : Follows id (jump target) (CoopCpu.Action.jump target) :=
  (follows_checkTarget target).bind fun _ => Follows.get.bind fun c => follows_setCounter c.active target

theorem follows_alter (code : Byte) (f : Byte → Byte) : Follows id (alter code f) (CoopCpu.Action.alter code f) :=
  (follows_readGeneral code).bind fun value => follows_setRegister code (f value)

theorem follows_settle (code : Byte) (result : Option Byte) :
    Follows id (settle code result) (CoopCpu.Action.settle code result) := by
  cases result with
  | some value => exact (follows_setRegister code value).bind fun _ => follows_setFlags _
  | none => exact follows_setFlags fun flags => { flags with overflow := true }

theorem follows_calculate (code : Byte) {result : Byte → Checked (Option Byte)} {result' : Byte → Option Byte}
    (h : ∀ v, result v = .ok (result' v)) : Follows id (calculate code result) (CoopCpu.Action.calculate code result') := by
  refine (follows_readGeneral code).bind fun value => ?_
  show Follows id (ensure (result value) >>= settle code) _
  rw [h, ensure_bind]
  exact follows_settle code _

/-- **Every instruction is followed.** -/
theorem follows_perform (i : Instruction) : Follows id (perform i) (CoopCpu.Action.perform i) := by
  cases i with
  | halt => exact Follows.throw _
  | yield =>
    refine Follows.get.bind fun c => ?_
    show Follows id (ensure (nextRunnable c.slots c.active.val) >>= setActive) _
    rw [nextRunnable_val, ensure_bind]
    exact follows_setActive _
  | stop =>
    refine Follows.get.bind fun c => ?_
    show Follows id (ensure (mask c.slots) >>= _) _
    rw [mask_eq, ensure_bind, ones_mask]
    have hsum : sum UInt64.size c.raw.active 1 = .ok (c.active.val + 1) := by
      refine sum_of_lt (Nat.lt_trans (Nat.succ_lt_succ c.active.isLt) ?_)
      decide
    have hretire : Follows id (setCounter c.raw.active 0 >>= fun _ =>
        ensure (sum UInt64.size c.raw.active 1) >>= fun next => setActive (next % 4))
        (CoopCpu.Action.setCounter c.active 0 >>= fun _ => CoopCpu.Action.setActive (c.active + 1)) := by
      refine (follows_setCounter c.active 0).bind fun _ => ?_
      rw [hsum, ensure_bind]
      exact follows_setActive (c.active + 1)
    have hrefuse : Follows id (throw .onlyOneThreadActive : Action Unit) (throw .onlyOneThreadActive) :=
      Follows.throw _
    exact Follows.ite (hrefuse.bind fun _ => hretire) hretire
  | spawn target =>
    refine (follows_checkTarget target).bind fun _ => Follows.get.bind fun c => ?_
    have hinactive : firstInactive c.raw.slots = c.slots.firstInactive.map Fin.val := firstInactive_eq c.slots
    rw [hinactive]
    cases c.slots.firstInactive with
    | none => exact Follows.throw _
    | some slot => exact (follows_setCounter slot target).bind fun _ => follows_setActive slot
  | jump target => exact follows_jump target
  | jumpRegister code => exact (follows_readRegister code).bind fun target => follows_jump target
  | jumpIfZero code target =>
    exact (follows_readRegister code).bind fun value => (follows_jump target).ite (Follows.pure ())
  | jumpUnlessZero code target =>
    exact (follows_readRegister code).bind fun value => (follows_jump target).ite (Follows.pure ())
  | load position code => exact (follows_readByte position).bind fun value => follows_setRegister code value
  | store code position =>
    exact (follows_readLowByte code).bind fun value => follows_writeByte position value
  | loadIndirect source destination =>
    exact (follows_readRegister source).bind fun position => (follows_readByte position).bind fun value =>
      follows_setRegister destination value
  | move source destination =>
    exact (follows_readLowByte source).bind fun value => follows_setRegister destination value
  | setValue value code => exact follows_setRegister code value
  | add source destination =>
    exact (follows_readRegister source).bind fun operand => follows_calculate destination fun v => rfl
  | subtract source destination =>
    exact (follows_readRegister source).bind fun operand => follows_calculate destination fun v => rfl
  | increment code | decrement code | shiftLeft code | shiftRight code => exact follows_calculate code fun v => rfl
  | clear code => exact follows_setRegister code 0
  | bitAnd source destination | bitOr source destination | bitXor source destination =>
    exact (follows_readLowByte source).bind fun value => follows_alter destination _
  | bitNot code => exact follows_alter code _
  | compare left right =>
    exact (follows_readRegister left).bind fun l => (follows_readRegister right).bind fun r => follows_setFlags _
  | testAndSet position offset =>
    unfold perform CoopCpu.Action.perform
    by_cases h : offset.toNat < 8
    · have hin : ¬ 7 < offset := fun hlt => Nat.not_lt.2 (UInt8.lt_iff_toNat_lt.1 hlt) h
      simp only [dif_pos h, if_neg hin]
      exact (follows_readBit position h).bind fun bit => (follows_setFlags _).bind fun _ =>
        follows_writeBit position h true
    · have hout : 7 < offset := UInt8.lt_iff_toNat_lt.2 (Nat.le_of_not_lt h)
      simp only [dif_neg h, if_pos hout]
      exact Follows.throw _

end Action
end Raw
end CoopCpu
