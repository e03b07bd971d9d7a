import CoopCpu.Proofs.Steps
/-!
# Proofs.Sources — where a fault and an effect come from

A fault tells which instruction was refused with it, and why (`Fault.Source`, `evaluate_faults`); in particular the two
faults of the fetch never come from an instruction (`evaluate_afterFetch`, `decode_afterFetch`), so the recorded fault
tells whether an instruction was fetched.  An effect tells which instruction came to it and what had been checked by then
(`Effect.Source`, `source_of_evaluate`).
-/
namespace CoopCpu

/-! ## Faults -/

/-- The fault is found before there is an instruction. -/
def Fault.beforeInstruction : Fault → Bool
  | .noActiveThreads | .programCounterOverflow _ => true
  | _ => false

/-- The fault of a reading that has one. -/
def faultOf? {α : Type} : Except Fault α → Option Fault
  | .ok _ => none
  | .error fault => some fault

theorem faultOf?_eq_some_iff {α : Type} {x : Except Fault α} {fault : Fault} :
    faultOf? x = some fault ↔ x = .error fault := by
  cases x <;> simp [faultOf?]

theorem faultOf?_eq_none_iff {α : Type} {x : Except Fault α} : faultOf? x = none ↔ ∃ a, x = .ok a := by
  cases x <;> simp [faultOf?]

theorem faultOf?_map {α β : Type} (f : α → β) (x : Except Fault α) : faultOf? (x.map f) = faultOf? x := by
  cases x <;> rfl

/-- A reading whose fault, if it has one, is not of the fetch. -/
def AfterFetch {α : Type} (x : Except Fault α) : Prop := ∀ fault, x = .error fault → fault.beforeInstruction = false

/-- A reading whose fault, if it has one, is of a kind. -/
def FaultsIn (P : Fault → Prop) {α : Type} (x : Except Fault α) : Prop := ∀ fault, x = .error fault → P fault

namespace FaultsIn

variable {P Q : Fault → Prop} {α β : Type}

theorem ok (a : α) : FaultsIn P (.ok a : Except Fault α) := fun _ h => by cases h

theorem error {fault : Fault} (h : P fault) : FaultsIn P (.error fault : Except Fault α) := fun _ he => by
  cases he
  exact h

theorem bind {x : Except Fault α} {f : α → Except Fault β} (hx : FaultsIn P x) (hf : ∀ a, x = .ok a → FaultsIn P (f a)) :
    FaultsIn P (x >>= f) := by
  intro fault h
  rcases eq_error_of_bind h with h | ⟨a, ha, h⟩
  · exact hx fault h
  · exact hf a ha fault h

theorem map {x : Except Fault α} (f : α → β) (hx : FaultsIn P x) : FaultsIn P (x.map f) := by
  intro fault h
  cases x with
  | ok a => cases h
  | error e => exact hx fault (by cases h; rfl)

theorem imp {x : Except Fault α} (h : ∀ fault, P fault → Q fault) (hx : FaultsIn P x) : FaultsIn Q x :=
  fun fault he => h fault (hx fault he)

end FaultsIn

/-- The fault is of an operand: a register that is not there, a target below the base, an address beyond the end. -/
def Fault.OfOperand : Fault → Prop
  | .illegalRegisterRead _ | .illegalRegisterWrite _ | .illegalJumpTarget _ _ | .memoryOutOfBounds _ => True
  | _ => False

theorem Memory.read_faults (m : Memory) (a : Address) : FaultsIn Fault.OfOperand (m.read a) := fun fault h => by
  rw [Memory.read_eq_error h]
  trivial

theorem Memory.byteAt_faults (m : Memory) (position : Nat) : FaultsIn Fault.OfOperand (m.byteAt position) := by
  unfold Memory.byteAt
  by_cases h : position < addressable
  · rw [if_pos h]; exact m.read_faults _
  · rw [if_neg h]; exact .error trivial

theorem Width.readAt_faults (m : Memory) (position : Nat) : ∀ w : Width, FaultsIn Fault.OfOperand (w.readAt m position)
  | .byte => (m.byteAt_faults position).bind fun _ _ => .ok _
  | .word => (m.byteAt_faults position).bind fun _ _ => (m.byteAt_faults (position + 1)).bind fun _ _ => .ok _

theorem Layout.readAt_faults (m : Memory) : ∀ (l : Layout) (position : Nat),
    FaultsIn Fault.OfOperand (Layout.readAt m position l)
  | [], _ => .ok _
  | w :: rest, position =>
    (w.readAt_faults m position).bind fun _ _ => (Layout.readAt_faults m rest _).bind fun _ _ => .ok _

/-- **A decoding fault is of an unknown opcode or of a byte beyond the end.** -/
theorem Table.decode_faults (t : Table) (m : Memory) (a : Address) :
    FaultsIn (fun fault => fault.OfOperand ∨ ∃ opcode, fault = .unknownOpcode opcode a) (t.decode m a) := by
  refine ((m.read_faults a).imp fun _ => .inl).bind fun opcode _ => ?_
  cases t.entry? opcode with
  | none => exact .error (.inr ⟨opcode, rfl⟩)
  | some e => exact ((Layout.readAt_faults m e.layout _).imp fun _ => .inl).bind fun _ _ => .ok _

/-- What a fault tells of the instruction that was refused with it, and of the core it was refused on. -/
def Fault.Source (c : Core) (i : Instruction) : Fault → Prop
  | .haltInstruction => i = .halt
  | .onlyOneThreadActive => i = .stop ∧ c.slots.activeCount ≤ 1
  | .noInactiveThreads => i.operation = .spawn ∧ c.slots.firstInactive = none
  | .illegalBitOffset offset => (∃ position, i = .testAndSet position offset) ∧ 8 ≤ offset.toNat
  | fault => fault.OfOperand

theorem Fault.OfOperand.source {c : Core} {i : Instruction} : ∀ {fault : Fault}, fault.OfOperand → fault.Source c i
  | .illegalRegisterRead _, _ | .illegalRegisterWrite _, _ | .illegalJumpTarget _ _, _ | .memoryOutOfBounds _, _ => trivial

theorem Fault.OfOperand.afterFetch : ∀ {fault : Fault}, fault.OfOperand → fault.beforeInstruction = false
  | .illegalRegisterRead _, _ | .illegalRegisterWrite _, _ | .illegalJumpTarget _ _, _ | .memoryOutOfBounds _, _ => rfl

theorem Fault.Source.afterFetch {c : Core} {i : Instruction} :
    ∀ {fault : Fault}, fault.Source c i → fault.beforeInstruction = false
  | .haltInstruction, _ | .onlyOneThreadActive, _ | .noInactiveThreads, _ | .illegalBitOffset _, _ => rfl
  | .illegalRegisterRead _, _ | .illegalRegisterWrite _, _ | .illegalJumpTarget _ _, _ | .memoryOutOfBounds _, _ => rfl

theorem Table.decode_afterFetch (t : Table) (m : Memory) (a : Address) : AfterFetch (t.decode m a) := by
  intro fault h
  rcases t.decode_faults m a fault h with h | ⟨opcode, rfl⟩
  · exact h.afterFetch
  · rfl

namespace Core

theorem register_faults (c : Core) (code : Byte) : FaultsIn Fault.OfOperand (c.register code) := by
  unfold register registerOf
  cases Register.ofCode? code with
  | some r => exact .ok _
  | none => exact .error trivial

theorem byteRegister_faults (c : Core) (code : Byte) : FaultsIn Fault.OfOperand (c.byteRegister code) :=
  (c.register_faults code).map _

theorem writable_faults (code : Byte) : FaultsIn Fault.OfOperand (writable code) := by
  unfold writable
  cases Register.general? code with
  | some r => exact .ok _
  | none => exact .error trivial

theorem checkTarget_faults (c : Core) (target : Address) : FaultsIn Fault.OfOperand (c.checkTarget target) := by
  unfold checkTarget
  by_cases h : target < c.base
  · rw [if_pos h]; exact .error trivial
  · rw [if_neg h]; exact .ok _

theorem jumpTo_faults (c : Core) (target : Address) : FaultsIn Fault.OfOperand (c.jumpTo target) :=
  (c.checkTarget_faults target).bind fun _ _ => .ok _

theorem calculation_faults (c : Core) (code : Byte) (result : Byte → Option Byte) :
    FaultsIn Fault.OfOperand (c.calculation code result) :=
  (writable_faults code).bind fun _ _ => .ok _

theorem bitwise_faults (c : Core) (source destination : Byte) (join : Byte → Byte → Byte) :
    FaultsIn Fault.OfOperand (c.bitwise source destination join) :=
  (c.byteRegister_faults source).bind fun _ _ => (writable_faults destination).bind fun _ _ => .ok _

/-- **A fault tells where it comes from.** -/
theorem evaluate_faults (c : Core) (i : Instruction) : FaultsIn (Fault.Source c i) (c.evaluate i) := by
  have operand {α : Type} {x : Except Fault α} (h : FaultsIn Fault.OfOperand x) : FaultsIn (Fault.Source c i) x :=
    h.imp fun _ => Fault.OfOperand.source
  cases i with
  | halt => exact .error rfl
  | yield => exact .ok _
  | stop =>
    rw [evaluate]
    by_cases h : c.slots.activeCount ≤ 1
    · rw [if_pos h]; exact .error ⟨rfl, h⟩
    · rw [if_neg h]; exact .ok _
  | spawn target =>
    refine (operand (c.checkTarget_faults target)).bind fun _ _ => ?_
    cases hf : c.slots.firstInactive with
    | some slot => exact .ok _
    | none => exact .error ⟨rfl, hf⟩
  | jump target => exact operand (c.jumpTo_faults target)
  | jumpRegister code => exact operand ((c.register_faults code).bind fun target _ => c.jumpTo_faults target)
  | jumpIfZero code target =>
    refine operand ((c.register_faults code).bind fun value _ => ?_)
    by_cases h : value = 0
    · rw [if_pos h]; exact c.jumpTo_faults target
    · rw [if_neg h]; exact .ok _
  | jumpUnlessZero code target =>
    refine operand ((c.register_faults code).bind fun value _ => ?_)
    by_cases h : value = 0
    · rw [if_pos h]; exact .ok _
    · rw [if_neg h]; exact c.jumpTo_faults target
  | load position code =>
    exact operand ((c.memory.read_faults position).bind fun _ _ => (writable_faults code).bind fun _ _ => .ok _)
  | store code position =>
    exact operand ((c.byteRegister_faults code).bind fun _ _ => (c.memory.read_faults position).bind fun _ _ => .ok _)
  | loadIndirect source destination =>
    exact operand ((c.register_faults source).bind fun position _ => (c.memory.read_faults position).bind fun _ _ =>
      (writable_faults destination).bind fun _ _ => .ok _)
  | move source destination =>
    exact operand ((c.byteRegister_faults source).bind fun _ _ => (writable_faults destination).bind fun _ _ => .ok _)
  | setValue value code => exact operand ((writable_faults code).bind fun _ _ => .ok _)
  | add source destination | subtract source destination =>
    exact operand ((c.register_faults source).bind fun _ _ => c.calculation_faults destination _)
  | increment code | decrement code | shiftLeft code | shiftRight code =>
    rw [evaluate]
    exact operand (c.calculation_faults code _)
  | clear code | bitNot code => exact operand ((writable_faults code).bind fun _ _ => .ok _)
  | bitAnd source destination | bitOr source destination | bitXor source destination =>
    exact operand (c.bitwise_faults source destination _)
  | compare left right =>
    exact operand ((c.register_faults left).bind fun _ _ => (c.register_faults right).bind fun _ _ => .ok _)
  | testAndSet position offset =>
    rw [evaluate]
    by_cases h : offset.toNat < 8
    · rw [dif_pos h]; exact operand ((c.memory.read_faults position).bind fun _ _ => .ok _)
    · rw [dif_neg h]; exact .error ⟨⟨position, rfl⟩, Nat.le_of_not_lt h⟩

/-- **The fault of an instruction is not of the fetch.** -/
theorem evaluate_afterFetch (c : Core) (i : Instruction) : AfterFetch (c.evaluate i) := fun fault h =>
  (c.evaluate_faults i fault h).afterFetch

end Core

/-! ## Effects -/

/-- The operations that can send the running thread elsewhere. -/
def Operation.isJump (op : Operation) : Bool :=
  op == .jump || op == .jumpRegister || op == .jumpIfZero || op == .jumpUnlessZero

/-- What an effect tells of the instruction that came to it, and of the core it came to it on. -/
def Effect.Source (c : Core) (i : Instruction) : Effect → Prop
  | .none => i.operation = .jumpIfZero ∨ i.operation = .jumpUnlessZero
  | .jump target => i.operation.isJump = true ∧ c.base ≤ target
  | .handOver => i = .yield
  | .retire => i = .stop ∧ 1 < c.slots.activeCount
  | .start slot entry => i = .spawn entry ∧ c.base ≤ entry ∧ c.slots.firstInactive = some slot
  | .setRegister _ _ | .calculate _ _ | .setFlags _ => True
  | .store a value => ∃ code, i = .store code a ∧ c.byteRegister code = .ok value ∧ a.toNat < c.memory.size
  | .testAndSet flags a value => ∃ (k : BitIndex) (b : Byte), i = .testAndSet a (UInt8.ofNat k.val) ∧
      c.memory.get? a = some b ∧ flags = Flags.ofCompare (Byte.bit b k).toUInt16 1 ∧ value = Byte.withBit b k true

namespace Core

theorem checkTarget_ok {c : Core} {target : Address} {u : Unit} (h : c.checkTarget target = .ok u) :
    c.base ≤ target := by
  unfold checkTarget at h
  by_cases hlt : target < c.base
  · rw [if_pos hlt] at h; cases h
  · exact UInt16.not_lt.1 hlt

theorem jumpTo_ok {c : Core} {target : Address} {effect : Effect} (h : c.jumpTo target = .ok effect) :
    effect = .jump target ∧ c.base ≤ target := by
  obtain ⟨u, hu, h⟩ := eq_ok_of_bind h
  exact ⟨(Except.ok.inj h).symm, checkTarget_ok hu⟩

theorem source_of_jumpTo {c : Core} {i : Instruction} (hi : i.operation.isJump = true) {target : Address}
    {effect : Effect} (h : c.jumpTo target = .ok effect) : effect.Source c i := by
  obtain ⟨rfl, hbase⟩ := jumpTo_ok h
  exact ⟨hi, hbase⟩

theorem source_of_writable {c : Core} {i : Instruction} {code : Byte} (value : RegisterIndex → Byte) {effect : Effect}
    (h : (writable code >>= fun r => pure (.setRegister r (value r))) = .ok effect) : effect.Source c i := by
  obtain ⟨r, -, h⟩ := eq_ok_of_bind h
  cases h
  trivial

theorem source_of_calculation {c : Core} {i : Instruction} {code : Byte} {result : Byte → Option Byte} {effect : Effect}
    (h : c.calculation code result = .ok effect) : effect.Source c i := by
  obtain ⟨r, -, h⟩ := eq_ok_of_bind h
  cases h
  trivial

/-- **An effect tells where it comes from.** -/
theorem source_of_evaluate {c : Core} {i : Instruction} {effect : Effect} (h : c.evaluate i = .ok effect) :
    effect.Source c i := by
  cases i with
  | halt => cases h
  | yield => cases h; rfl
  | stop =>
    rw [evaluate] at h
    by_cases hc : c.slots.activeCount ≤ 1
    · rw [if_pos hc] at h; cases h
    · rw [if_neg hc] at h; cases h; exact ⟨rfl, Nat.lt_of_not_le hc⟩
  | spawn target =>
    obtain ⟨u, hu, h⟩ := eq_ok_of_bind h
    cases hf : c.slots.firstInactive with
    | some slot => rw [hf] at h; cases h; exact ⟨rfl, checkTarget_ok hu, hf⟩
    | none => rw [hf] at h; cases h
  | jump target => exact source_of_jumpTo rfl h
  | jumpRegister code =>
    obtain ⟨target, -, h⟩ := eq_ok_of_bind h
    exact source_of_jumpTo rfl h
  | jumpIfZero code target =>
    obtain ⟨value, -, h⟩ := eq_ok_of_bind h
    by_cases hz : value = 0
    · rw [if_pos hz] at h; exact source_of_jumpTo rfl h
    · rw [if_neg hz] at h; cases h; exact .inl rfl
  | jumpUnlessZero code target =>
    obtain ⟨value, -, h⟩ := eq_ok_of_bind h
    by_cases hz : value = 0
    · rw [if_pos hz] at h; cases h; exact .inr rfl
    · rw [if_neg hz] at h; exact source_of_jumpTo rfl h
  | load position code =>
    obtain ⟨value, -, h⟩ := eq_ok_of_bind h
    exact source_of_writable _ h
  | store code position =>
    obtain ⟨value, hvalue, h⟩ := eq_ok_of_bind h
    obtain ⟨b, hread, h⟩ := eq_ok_of_bind h
    cases h
    exact ⟨code, rfl, hvalue, Memory.lt_size_of_read hread⟩
  | loadIndirect source destination =>
    obtain ⟨position, -, h⟩ := eq_ok_of_bind h
    obtain ⟨value, -, h⟩ := eq_ok_of_bind h
    exact source_of_writable _ h
  | move source destination =>
    obtain ⟨value, -, h⟩ := eq_ok_of_bind h
    exact source_of_writable _ h
  | setValue value code => exact source_of_writable (fun _ => value) h
  | add source destination | subtract source destination =>
    obtain ⟨operand, -, h⟩ := eq_ok_of_bind h
    exact source_of_calculation h
  | increment code | decrement code | shiftLeft code | shiftRight code =>
    rw [evaluate] at h
    exact source_of_calculation h
  | clear code => exact source_of_writable (fun _ => 0) h
  | bitAnd source destination | bitOr source destination | bitXor source destination =>
    obtain ⟨value, -, h⟩ := eq_ok_of_bind h
    exact source_of_writable _ h
  | bitNot code => exact source_of_writable (fun r => ~~~ c.activeSlot.register r) h
  | compare left right =>
    obtain ⟨l, -, h⟩ := eq_ok_of_bind h
    obtain ⟨r, -, h⟩ := eq_ok_of_bind h
    cases h
    trivial
  | testAndSet position offset =>
    rw [evaluate] at h
    by_cases hlt : offset.toNat < 8
    · rw [dif_pos hlt] at h
      obtain ⟨b, hread, h⟩ := eq_ok_of_bind h
      cases h
      refine ⟨⟨offset.toNat, hlt⟩, b, ?_, (Memory.read_eq_ok_iff _ _ _).1 hread, rfl, rfl⟩
      rw [UInt8.ofNat_toNat]
    · rw [dif_neg hlt] at h; cases h

end Core
end CoopCpu
