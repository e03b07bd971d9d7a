import CoopCpu.Proofs.TableRecords
import CoopCpu.Raw
/-!
# Proofs.RawReadings — what a core shows and a table decodes is read without a trap

Each raw reading of a core is the reading of that core (`register_raw`), and decoding under the records of a table is
decoding under the table (`decode_records`).  The bounds come from three places: a slot number of the core is below 4,
the layouts that an operation admits have one place for each operand that `build` takes and no more than three bytes,
and positions in memory stay far below the largest number.
-/
namespace CoopCpu
namespace Raw

/-! ## Going on with a reading -/

section

variable {α β : Type}

@[simp]
theorem checked_bind (a : α) (f : α → Reading β) : (checked (.ok a) >>= f) = f a := rfl

@[simp]
theorem faulting_ok_bind (a : α) (f : α → Reading β) : (faulting (.ok a) >>= f) = f a := rfl

theorem faulting_bind (x : Except Fault α) {f : α → Reading β} {g : α → Except Fault β}
    (h : ∀ a, f a = faulting (g a)) : (faulting x >>= f) = faulting (x >>= g) := by
  cases x with
  | ok a => exact h a
  | error fault => rfl

theorem item_of_getElem? {items : List α} {i : Nat} {a : α} (h : items[i]? = some a) : item items i = .ok a := by
  unfold item
  rw [h]

theorem sum_of_lt {values a b : Nat} (h : a + b < values) : sum values a b = .ok (a + b) := if_pos h

theorem shift_of_lt {bits amount : Nat} (h : amount < bits) : shift bits amount = .ok () := if_pos h

end

theorem setIfInBounds_val {α : Type} {n : Nat} (v : Vector α n) (i : Fin n) (a : α) :
    v.setIfInBounds i.val a = v.set i.val a i.isLt := by
  have hi : i.val < v.toArray.size := by simp
  apply Vector.toArray_inj.1
  exact dif_pos hi

/-! ## Slots -/

theorem toList_eq (s : Slots) : s.toList = [s.get 0, s.get 1, s.get 2, s.get 3] := by
  obtain ⟨⟨slots⟩, hsize⟩ := s
  match slots, hsize with
  | [_, _, _, _], _ => rfl

theorem getElem?_toList (s : Slots) (i : SlotIndex) : s.toList[i.val]? = some (s.get i) := by
  rw [toList_eq]
  match i with
  | 0 | 1 | 2 | 3 => rfl

@[simp]
theorem slot_val (s : Slots) (i : SlotIndex) : slot s i.val = .ok (s.get i) := item_of_getElem? (getElem?_toList s i)

@[simp]
theorem updateSlot_val (s : Slots) (i : SlotIndex) (change : ThreadSlot → ThreadSlot) :
    updateSlot s i.val change = .ok (s.update i change) := by
  unfold updateSlot
  rw [slot_val]
  exact congrArg Except.ok (setIfInBounds_val s i _)

theorem maskFrom_eq : ∀ (ts : List ThreadSlot) (i : Nat) (acc : Byte), i + ts.length ≤ 8 → maskFrom i acc ts =
    .ok ((ts.zipIdx i).foldl (fun acc t => if t.1.isActive then acc ||| 1 <<< UInt8.ofNat t.2 else acc) acc)
  | [], _, _, _ => rfl
  | t :: ts, i, acc, h => by
    rw [List.length_cons] at h
    have hrest := fun acc' => maskFrom_eq ts (i + 1) acc' (by omega)
    unfold maskFrom
    rw [shift_of_lt (by omega : i < 8), List.zipIdx_cons, List.foldl_cons]
    cases t.isActive with
    | true => exact hrest _
    | false => exact hrest _

theorem mask_eq (s : Slots) : mask s = .ok s.mask := by
  unfold mask Slots.mask
  rw [maskFrom_eq _ _ _ (by simp), toList_eq, Slots.finRange_four]
  rfl

theorem ones_mask (s : Slots) : ones s.mask = s.activeCount := by
  unfold Slots.mask Slots.activeCount
  simp only [Slots.finRange_four, List.foldl_cons, List.foldl_nil, List.countP_cons, List.countP_nil]
  generalize s.activeAt 0 = b₀, s.activeAt 1 = b₁, s.activeAt 2 = b₂, s.activeAt 3 = b₃
  revert b₀ b₁ b₂ b₃
  decide

theorem ones_eq_zero_iff (b : Byte) : ones b = 0 ↔ b = 0 := by
  constructor
  · intro h
    have hlow : ∀ i < 8, b.toNat.testBit i = false := by simpa [ones] using h
    have hzero : b.toNat = 0 := by
      refine Nat.eq_of_testBit_eq fun i => ?_
      rw [Nat.zero_testBit]
      by_cases hi : i < 8
      · exact hlow i hi
      · have hpow : 2 ^ 8 ≤ 2 ^ i := Nat.pow_le_pow_right (by decide) (Nat.le_of_not_lt hi)
        exact Nat.testBit_lt_two_pow (Nat.lt_of_lt_of_le b.toNat_lt hpow)
    exact UInt8.toNat_inj.1 hzero
  · intro h
    rw [h]
    decide

theorem mask_eq_zero_iff (s : Slots) : s.mask = 0 ↔ s.activeCount = 0 := by
  rw [← ones_mask, ones_eq_zero_iff]

theorem firstInactive_eq (s : Slots) : firstInactive s = s.firstInactive.map Fin.val := by
  unfold firstInactive Slots.firstInactive Slots.activeAt
  rw [toList_eq, Slots.finRange_four]
  simp only [List.findIdx?_cons, List.findIdx?_nil, List.find?_cons, List.find?_nil]
  generalize (s.get 0).isActive = b₀, (s.get 1).isActive = b₁, (s.get 2).isActive = b₂, (s.get 3).isActive = b₃
  revert b₀ b₁ b₂ b₃
  decide

theorem nextFrom_val (s : Slots) (i : SlotIndex) : ∀ steps : List Nat, (∀ step ∈ steps, step ≤ 4) →
    nextFrom s i.val steps = .ok (((steps.map fun step => Fin.ofNat 4 (i.val + step)).find? s.activeAt).getD i).val
  | [], _ => rfl
  | step :: steps, h => by
    have hstep : i.val + step < UInt64.size := by
      have := h step List.mem_cons_self
      have := i.isLt
      simp only [UInt64.size]
      omega
    have hslot : slot s ((i.val + step) % 4) = .ok (s.get (Fin.ofNat 4 (i.val + step))) :=
      slot_val s (Fin.ofNat 4 (i.val + step))
    have hrest := nextFrom_val s i steps fun n hn => h n (List.mem_cons_of_mem step hn)
    unfold nextFrom
    rw [sum_of_lt hstep]
    show (slot s ((i.val + step) % 4) >>= fun t =>
      if t.isActive then pure ((i.val + step) % 4) else nextFrom s i.val steps) = _
    rw [hslot, List.map_cons, List.find?_cons]
    show (if s.activeAt (Fin.ofNat 4 (i.val + step)) then pure ((i.val + step) % 4) else nextFrom s i.val steps) = _
    cases s.activeAt (Fin.ofNat 4 (i.val + step)) with
    | true => rfl
    | false => exact hrest

theorem nextRunnable_val (s : Slots) (i : SlotIndex) : nextRunnable s i.val = .ok (s.nextRunnable i).val :=
  nextFrom_val s i [1, 2, 3, 4] (by decide)

/-! ## Bits -/

theorem bitMask_eq {offset : Byte} (h : offset.toNat < 8) : bitMask offset = .ok (Byte.mask ⟨offset.toNat, h⟩) := by
  unfold bitMask Byte.mask
  rw [shift_of_lt h, UInt8.ofNat_toNat]
  rfl

theorem readBit_eq (m : Memory) (a : Address) {offset : Byte} (h : offset.toNat < 8) :
    readBit m a offset = faulting (m.readBit a ⟨offset.toNat, h⟩) := by
  unfold readBit Memory.readBit
  rw [bitMask_eq h]
  cases m.read a with
  | ok b => rfl
  | error fault => rfl

theorem writeBit_eq (m : Memory) (a : Address) {offset : Byte} (h : offset.toNat < 8) (value : Bool) :
    writeBit m a offset value = faulting (m.writeBit a ⟨offset.toNat, h⟩ value) := by
  unfold writeBit Memory.writeBit
  rw [bitMask_eq h]
  cases m.read a with
  | ok b => rfl
  | error fault => rfl

/-! ## Registers -/

namespace Core

@[simp]
theorem running_raw (c : CoopCpu.Core) : c.raw.running = .ok c.activeSlot := slot_val c.slots c.active

@[simp]
theorem updateRunning_raw (c : CoopCpu.Core) (change : ThreadSlot → ThreadSlot) :
    c.raw.updateRunning change = .ok ((c.updateActive change).raw) := by
  unfold updateRunning CoopCpu.Core.raw
  rw [updateSlot_val]
  rfl

theorem getElem?_registers (t : ThreadSlot) (r : RegisterIndex) : t.registers.toList[r.val]? = some (t.register r) := by
  rw [Vector.getElem?_toList]
  exact Vector.getElem?_eq_getElem r.isLt

/-- **The running thread reads the same in its registers**, and there is nothing to trap on. -/
theorem register_raw (c : CoopCpu.Core) (code : Byte) : c.raw.register code = faulting (c.register code) := by
  unfold register CoopCpu.Core.register CoopCpu.Core.registerOf Register.ofCode? Register.general?
  rw [running_raw, checked_bind]
  by_cases hgeneral : code.toNat < 8
  · have hle : code ≤ 0x07 := UInt8.le_iff_toNat_le.2 (Nat.le_of_lt_succ hgeneral)
    have hitem := item_of_getElem? (getElem?_registers c.activeSlot ⟨code.toNat, hgeneral⟩)
    rw [if_pos hle, dif_pos hgeneral, hitem]
    rfl
  · have hle : ¬ code ≤ 0x07 := fun h => hgeneral (Nat.lt_succ_of_le (UInt8.le_iff_toNat_le.1 h))
    have hmask : mask c.raw.slots = .ok c.slots.mask := mask_eq c.slots
    rw [if_neg hle, dif_neg hgeneral, hmask]
    -- The seven codes that show the state of the machine, one after another.
    by_cases hT : code = 0x80
    · rw [if_pos hT, if_pos hT]; rfl
    by_cases hTC : code = 0x81
    · rw [if_neg hT, if_neg hT, if_pos hTC, if_pos hTC]; rfl
    by_cases hPC : code = 0x82
    · rw [if_neg hT, if_neg hT, if_neg hTC, if_neg hTC, if_pos hPC, if_pos hPC]; rfl
    simp only [if_neg hT, if_neg hTC, if_neg hPC]
    by_cases hCE : code = 0x84
    · rw [if_pos hCE, if_pos hCE]; rfl
    by_cases hCG : code = 0x85
    · rw [if_neg hCE, if_neg hCE, if_pos hCG, if_pos hCG]; rfl
    simp only [if_neg hCE, if_neg hCG]
    by_cases hCL : code = 0x86
    · rw [if_pos hCL, if_pos hCL]; rfl
    by_cases hOF : code = 0x87
    · rw [if_neg hCL, if_neg hCL, if_pos hOF, if_pos hOF]; rfl
    · rw [if_neg hCL, if_neg hCL, if_neg hOF, if_neg hOF]; rfl

theorem writable_raw (c : CoopCpu.Core) (code : Byte) :
    c.raw.writable code = faulting ((CoopCpu.Core.writable code).map Fin.val) := by
  have hlength : c.activeSlot.registers.toList.length = 8 := by simp
  unfold writable CoopCpu.Core.writable Register.general?
  rw [running_raw, checked_bind, hlength]
  by_cases h : code.toNat < 8
  · rw [if_pos h, dif_pos h]; rfl
  · rw [if_neg h, dif_neg h]; rfl

theorem checkTarget_raw (c : CoopCpu.Core) (target : Address) :
    c.raw.checkTarget target = faulting (c.checkTarget target) := by
  unfold checkTarget CoopCpu.Core.checkTarget CoopCpu.Core.raw
  by_cases h : target < c.base
  · rw [if_pos h, if_pos h]; rfl
  · rw [if_neg h, if_neg h]; rfl

end Core

/-! ## Instructions -/

/-- **An operation never looks for more operands than its layouts have.** -/
theorem build_eq {op : Operation} {operands : List UInt16} (h : op.arity ≤ operands.length) :
    build op operands = .ok (Instruction.ofOperands op operands) := by
  cases op with
  | halt | yield | stop => rfl
  | spawn | jump | jumpRegister | increment | decrement | clear | shiftLeft | shiftRight | bitNot =>
    match operands, h with
    | _ :: _, _ => rfl
  | jumpIfZero | jumpUnlessZero | load | store | loadIndirect | move | setValue | add | subtract | bitAnd | bitOr
  | bitXor | compare | testAndSet =>
    match operands, h with
    | _ :: _ :: _, _ => rfl

theorem operandAt_number (m : Memory) {position : Nat} (h : position + 1 < UInt64.size) (w : Width) :
    operandAt m position w.number = faulting (w.readAt m position) := by
  cases w with
  | byte => exact faulting_bind _ fun b => rfl
  | word =>
    refine faulting_bind _ fun high => ?_
    rw [sum_of_lt h]
    exact faulting_bind _ fun low => rfl

/-- A number put in place `i` of an array, with more numbers after it. -/
theorem take_set_append {array : List UInt16} {i : Nat} (h : i < array.length) (value : UInt16) (values : List UInt16) :
    (array.set i value).take (i + 1) ++ values ++ (array.set i value).drop (i + 1 + values.length) =
      array.take i ++ value :: values ++ array.drop (i + (value :: values).length) := by
  have htake : (array.set i value).take (i + 1) = array.take i ++ [value] := by
    rw [List.take_add_one, List.take_set_of_le (Nat.le_refl i), List.getElem?_set_self h]
    rfl
  have hdrop : (array.set i value).drop (i + 1 + values.length) = array.drop (i + (value :: values).length) := by
    rw [List.drop_set_of_lt (by omega), List.length_cons]
    congr 1
    omega
  rw [htake, hdrop, List.append_assoc (array.take i)]
  rfl

/-- The array keeps what it has before place `i` and after the numbers of the layout. -/
theorem operandsFrom_numbers (m : Memory) : ∀ (l : Layout) (i position : Nat) (array : List UInt16),
    i + l.length ≤ array.length → position + Layout.size l + 1 < UInt64.size →
    operandsFrom m i position array (Layout.numbers l) =
      faulting ((l.readAt m position).map fun values => array.take i ++ values ++ array.drop (i + values.length))
  | [], i, position, array, _, _ => by
    have harray : array.take i ++ [] ++ array.drop (i + 0) = array := by simp
    show faulting (.ok array) = faulting (.ok (array.take i ++ [] ++ array.drop (i + 0)))
    rw [harray]
  | w :: rest, i, position, array, hplaces, hroom => by
    have hsize : Layout.size (w :: rest) = w.size + Layout.size rest := rfl
    have hnumber : w.number.toNat = w.size := by cases w <;> rfl
    rw [List.length_cons] at hplaces
    have hi : i < array.length := by omega
    have hreplace (value : UInt16) : replace array i value = .ok (array.set i value) := if_pos hi
    have hrest (value : UInt16) := operandsFrom_numbers m rest (i + 1) (position + w.size) (array.set i value)
      (by rw [List.length_set]; omega) (by omega)
    show (operandAt m position w.number >>= fun value => checked (replace array i value) >>= fun array =>
      checked (sum UInt64.size position w.number.toNat) >>= fun position =>
        operandsFrom m (i + 1) position array (Layout.numbers rest)) = faulting ((do
          let value ← w.readAt m position
          let values ← Layout.readAt m (position + w.size) rest
          return value :: values : Except Fault (List UInt16)).map _)
    rw [operandAt_number m (by omega) w, hnumber, sum_of_lt (by omega)]
    cases w.readAt m position with
    | error fault => rfl
    | ok value =>
      rw [faulting_ok_bind, hreplace, checked_bind, checked_bind, hrest value]
      cases Layout.readAt m (position + w.size) rest with
      | error fault => rfl
      | ok values => exact congrArg (fun array => faulting (.ok array)) (take_set_append hi value values)

theorem length_of_readAt (m : Memory) : ∀ {l : Layout} {position : Nat} {values : List UInt16},
    l.readAt m position = .ok values → values.length = l.length
  | [], _, _, h => by cases h; rfl
  | w :: rest, _, _, h => by
    obtain ⟨value, -, h⟩ := eq_ok_of_bind h
    obtain ⟨more, hmore, h⟩ := eq_ok_of_bind h
    cases h
    rw [List.length_cons, List.length_cons, length_of_readAt m hmore]

theorem length_of_mem_layouts {op : Operation} {l : Layout} (h : l ∈ op.layouts) : l.length = op.arity := by
  have hall : ∀ l ∈ op.layouts, l.length = op.arity := by cases op <;> decide
  exact hall l h

theorem length_le_size : ∀ l : Layout, l.length ≤ Layout.size l
  | [] => Nat.le_refl 0
  | w :: rest => by
    have hw : 1 ≤ w.size := by cases w <;> decide
    have hrest := length_le_size rest
    show rest.length + 1 ≤ w.size + Layout.size rest
    omega

/-- **Under the records of a table nothing is decoded otherwise**, and no width or place is out of range. -/
theorem decode_records (t : Table) (m : Memory) (position : Address) :
    decode t.records m position = faulting (t.decode m position) := by
  have hposition := position.toNat_lt
  have hfind (opcode : Byte) : t.records.find? (fun r => r.code == opcode) =
      (t.entry? opcode).map Entry.record := List.find?_map ..
  unfold decode Table.decode
  refine faulting_bind _ fun opcode => ?_
  rw [hfind]
  cases t.entry? opcode with
  | none => rfl
  | some e =>
    have harity := length_of_mem_layouts e.layout_mem
    have hsize := Operation.size_le_of_mem_layouts e.layout_mem
    have hlength : e.layout.length ≤ 3 := Nat.le_trans (length_le_size e.layout) hsize
    have hstart : position.toNat + 1 < UInt64.size := by simp only [UInt64.size]; omega
    have hoperands := operandsFrom_numbers m e.layout 0 (position.toNat + 1) [0, 0, 0]
      (by rw [Nat.zero_add]; exact hlength) (by simp only [UInt64.size]; omega)
    show (checked (sum UInt64.size position.toNat 1) >>= fun start =>
      operandsFrom m 0 start [0, 0, 0] (Layout.numbers e.layout) >>= fun array =>
        checked (front array (Layout.numbers e.layout).length) >>= fun operands =>
          checked (build e.operation operands)) =
      faulting (e.layout.readAt m (position.toNat + 1) >>= fun operands =>
        pure (Instruction.ofOperands e.operation operands))
    rw [sum_of_lt hstart, checked_bind, hoperands]
    cases hread : e.layout.readAt m (position.toNat + 1) with
    | error fault => rfl
    | ok values =>
      have hvalues := length_of_readAt m hread
      have hfront : front ([0, 0, 0].take 0 ++ values ++ [0, 0, 0].drop (0 + values.length))
          (Layout.numbers e.layout).length = .ok values := by
        unfold front Layout.numbers
        rw [List.length_map, ← hvalues]
        simp
      show (checked (front _ _) >>= _) = _
      rw [hfront, checked_bind, build_eq (by omega)]
      rfl

-- Records that no table takes up: one gives too few operands, the other one of three bytes.
example : decode [⟨0, .testAndSet, [1]⟩] ⟨#[0, 0, 0, 0]⟩ 0 = Except.error (Trap.index 1 1) := by rfl
example : decode [⟨0, .testAndSet, [3]⟩] ⟨#[0, 0, 0, 0]⟩ 0 = Except.error (Trap.width 3) := by rfl

theorem ofDefinition?_definition (e : Entry) : Record.ofDefinition? e.definition = some e.record := by
  unfold Record.ofDefinition?
  rw [e.ofMnemonic?_definition]
  rfl

/-- **The records of an accepted table are those of its definitions.** -/
theorem recordsOf_of_ofDefinitions {definitions : List Definition} {t : Table}
    (h : Table.ofDefinitions definitions = .ok t) : recordsOf definitions = t.records := by
  obtain rfl := Table.ofDefinitions_eq_ok_iff.1 h
  unfold recordsOf Table.definitions Table.records
  rw [List.filterMap_map, ← List.filterMap_eq_map]
  exact congrArg (List.filterMap · t.entries) (funext ofDefinition?_definition)

/-! ## Listings -/

theorem codeText_eq (code : Byte) : codeText code = .ok (Register.codeText code) := by
  unfold codeText
  by_cases hle : code ≤ 0x07
  · have hgeneral : code.toNat < 8 := Nat.lt_succ_of_le (UInt8.le_iff_toNat_le.1 hle)
    have hsum : 65 + code.toNat < UInt8.size := by simp only [UInt8.size]; omega
    unfold Register.codeText Register.ofCode? Register.general?
    rw [if_pos hle, sum_of_lt hsum, dif_pos hgeneral]
    rfl
  · rw [if_neg hle]; rfl

theorem mapM_operandText : ∀ operands : List Operand, operands.mapM operandText = .ok (operands.map Operand.text)
  | [] => rfl
  | operand :: rest => by
    have hoperand : operandText operand = .ok operand.text := by
      cases operand with
      | register code => exact codeText_eq code
      | _ => rfl
    rw [List.mapM_cons, hoperand, mapM_operandText rest]
    rfl

theorem text_eq (i : Instruction) : text i = .ok i.text := by
  unfold text Instruction.text
  rw [mapM_operandText]
  cases i.operands with
  | nil => rfl
  | cons operand rest => rfl

end Raw
end CoopCpu
