import CoopCpu.Manual
import CoopCpu.Proofs.MemoryAccess
import CoopCpu.Proofs.Slots
/-!
# Proofs.ManualState — the parts of a core in the terms of the manual

`State.of` forgets nothing (`State.of_inj`), and what the manual reads in a state is what the core has: which slots are
live and which comes next, the registers, the bytes of memory.  A change of one slot or of one byte on the one side is a
change of it on the other (`change_of`, `memory_set_of`).
-/
namespace CoopCpu
namespace Manual

theorem Slot.of_inj {t t' : ThreadSlot} (h : Slot.of t = Slot.of t') : t = t' := by
  obtain ⟨pc, registers, ⟨equal, less, greater, overflow⟩⟩ := t
  obtain ⟨pc', registers', ⟨equal', less', greater', overflow'⟩⟩ := t'
  have hpc : pc = pc' := UInt16.toNat_inj.1 (congrArg Slot.pc h)
  have hregisters : registers = registers' :=
    Vector.ext fun i hi => UInt8.toNat_inj.1 (congrFun (congrArg Slot.register h) ⟨i, hi⟩)
  have hequal : equal = equal' := congrArg Slot.equal h
  have hless : less = less' := congrArg Slot.less h
  have hgreater : greater = greater' := congrArg Slot.greater h
  have hoverflow : overflow = overflow' := congrArg Slot.overflow h
  rw [hpc, hregisters, hequal, hless, hgreater, hoverflow]

namespace State

/-- **The manual's view of a core shows all of it.** -/
theorem of_inj {c c' : Core} (h : State.of c = State.of c') : c = c' := by
  obtain ⟨⟨bytes⟩, slots, active, base⟩ := c
  obtain ⟨⟨bytes'⟩, slots', active', base'⟩ := c'
  have hbytes : bytes = bytes' :=
    Array.toList_inj.1 ((List.map_inj_right fun _ _ => UInt8.toNat_inj.1).1 (congrArg State.memory h))
  have hslots : slots = slots' := Slots.ext fun i => Slot.of_inj (congrFun (congrArg State.slot h) i)
  have hactive : active = active' := congrArg State.active h
  have hbase : base = base' := UInt16.toNat_inj.1 (congrArg State.base h)
  rw [hbytes, hslots, hactive, hbase]

/-! ## Threads -/

theorem live_of (c : Core) (i : SlotIndex) : (State.of c).live i = c.slots.activeAt i := by
  rw [Bool.eq_iff_iff, Slots.activeAt_iff]
  show ((c.slots.get i).pc.toNat != 0) = true ↔ _
  rw [bne_iff_ne]
  exact not_congr ⟨fun h => UInt16.toNat_inj.1 h, fun h => by rw [h]; rfl⟩

theorem liveCount_of (c : Core) : (State.of c).liveCount = c.slots.activeCount := by
  unfold liveCount Slots.activeCount
  simp only [live_of, Slots.finRange_four, List.countP_cons, List.countP_nil]
  generalize c.slots.activeAt 0 = b₀, c.slots.activeAt 1 = b₁, c.slots.activeAt 2 = b₂, c.slots.activeAt 3 = b₃
  revert b₀ b₁ b₂ b₃
  decide

theorem liveMask_of (c : Core) : (State.of c).liveMask = c.slots.mask.toNat := by
  unfold liveMask Slots.mask
  simp only [live_of, Slots.finRange_four, List.foldl_cons, List.foldl_nil]
  generalize c.slots.activeAt 0 = b₀, c.slots.activeAt 1 = b₁, c.slots.activeAt 2 = b₂, c.slots.activeAt 3 = b₃
  revert b₀ b₁ b₂ b₃
  decide

theorem next_of (c : Core) : (State.of c).next = c.slots.nextRunnable c.active := by
  unfold next Slots.nextRunnable Slots.firstActiveAfter
  rw [Slots.following_eq]
  show (if (State.of c).live (c.active + 1) then c.active + 1
    else if (State.of c).live (c.active + 2) then c.active + 2
    else if (State.of c).live (c.active + 3) then c.active + 3 else c.active) = _
  simp only [live_of, List.find?_cons, List.find?_nil]
  cases c.slots.activeAt (c.active + 1)
  · cases c.slots.activeAt (c.active + 2)
    · cases c.slots.activeAt (c.active + 3)
      · cases c.slots.activeAt c.active <;> rfl
      · rfl
    · rfl
  · rfl

theorem vacant_of (c : Core) : (State.of c).vacant = c.slots.firstInactive := by
  unfold vacant Slots.firstInactive
  simp only [live_of, Slots.finRange_four, List.find?_cons, List.find?_nil]
  generalize c.slots.activeAt 0 = b₀, c.slots.activeAt 1 = b₁, c.slots.activeAt 2 = b₂, c.slots.activeAt 3 = b₃
  revert b₀ b₁ b₂ b₃
  decide

theorem change_of (c : Core) (i : SlotIndex) {f : Slot → Slot} {g : ThreadSlot → ThreadSlot}
    (h : f (Slot.of (c.slots.get i)) = Slot.of (g (c.slots.get i))) :
    (State.of c).change i f = State.of { c with slots := c.slots.update i g } := by
  have hslot : (fun j => if j = i then f (Slot.of (c.slots.get i)) else Slot.of (c.slots.get j)) =
      fun j => Slot.of ((c.slots.update i g).get j) := by
    funext j
    rw [Slots.get_update]
    by_cases hj : j = i
    · rw [if_pos hj, if_pos hj, h]
    · rw [if_neg hj, if_neg hj]
  exact congrArg (fun slot => { State.of c with slot }) hslot

theorem change_change (s : State) (i : Fin 4) (f g : Slot → Slot) :
    (s.change i f).change i g = s.change i fun t => g (f t) := by
  refine congrArg (fun slot => { s with slot }) (funext fun j => ?_)
  show (if j = i then g (if i = i then f (s.slot i) else s.slot i) else if j = i then f (s.slot i) else s.slot j) = _
  rw [if_pos rfl]
  by_cases hj : j = i
  · rw [if_pos hj, if_pos hj]
  · rw [if_neg hj, if_neg hj, if_neg hj]

/-! ## Registers and memory -/

theorem toNat_flag (b : Bool) : b.toUInt16.toNat = b.toNat := by cases b <;> rfl

/-- **A thread reads in every register what the core shows it there.** -/
theorem read_of (c : Core) (code : Byte) :
    (State.of c).read code.toNat = (c.register code).toOption.map UInt16.toNat := by
  by_cases h : code.toNat < 8
  · have hgeneral : c.register code = .ok (c.activeSlot.register ⟨code.toNat, h⟩).toUInt16 := by
      unfold Core.register Core.registerOf Register.ofCode? Register.general?
      rw [dif_pos h]
      rfl
    rw [hgeneral, read, dif_pos h]
    exact congrArg some (UInt8.toNat_toUInt16 _).symm
  by_cases hT : code = 0x80
  · rw [hT]
    exact congrArg some (UInt16.toNat_ofNat_of_lt' (Nat.lt_trans c.active.isLt (by decide))).symm
  by_cases hTC : code = 0x81
  · rw [hTC]
    exact congrArg some ((liveMask_of c).trans (UInt8.toNat_toUInt16 _).symm)
  by_cases hPC : code = 0x82
  · rw [hPC]; rfl
  by_cases hCE : code = 0x84
  · rw [hCE]
    exact congrArg some (toNat_flag _).symm
  by_cases hCG : code = 0x85
  · rw [hCG]
    exact congrArg some (toNat_flag _).symm
  by_cases hCL : code = 0x86
  · rw [hCL]
    exact congrArg some (toNat_flag _).symm
  by_cases hOF : code = 0x87
  · rw [hOF]
    exact congrArg some (toNat_flag _).symm
  have hne {k : Byte} (n : Nat) (hk : code ≠ k) (hn : k.toNat = n) : code.toNat ≠ n :=
    fun e => hk (UInt8.toNat_inj.1 (e.trans hn.symm))
  have unread : (State.of c).read code.toNat = none := by
    unfold read
    rw [dif_neg h, if_neg (hne 0x80 hT rfl), if_neg (hne 0x81 hTC rfl), if_neg (hne 0x82 hPC rfl),
      if_neg (hne 0x84 hCE rfl), if_neg (hne 0x85 hCG rfl), if_neg (hne 0x86 hCL rfl), if_neg (hne 0x87 hOF rfl)]
  have unnamed : Register.ofCode? code = none := by
    unfold Register.ofCode? Register.general?
    rw [dif_neg h]
    simp only [if_neg hT, if_neg hTC, if_neg hPC, if_neg hCE, if_neg hCG, if_neg hCL, if_neg hOF]
  unfold Core.register Core.registerOf
  rw [unread, unnamed]
  rfl

theorem load_of (c : Core) (a : Address) :
    (State.of c).load a.toNat = (c.memory.read a).toOption.map UInt8.toNat := by
  have hget : (State.of c).load a.toNat = (c.memory.get? a).map UInt8.toNat := by
    show (c.memory.bytes.toList.map UInt8.toNat)[a.toNat]? = (c.memory.bytes[a.toNat]?).map UInt8.toNat
    rw [List.getElem?_map, Array.getElem?_toList]
  rw [hget, Memory.read]
  cases c.memory.get? a with
  | some b => rfl
  | none => rfl

theorem memory_length_of (c : Core) : (State.of c).memory.length = c.memory.size := by
  show (c.memory.bytes.toList.map UInt8.toNat).length = c.memory.bytes.size
  rw [List.length_map, Array.length_toList]

theorem memory_set_of (c : Core) (a : Address) (value : Byte) :
    { State.of c with memory := (State.of c).memory.set a.toNat value.toNat } =
      State.of { c with memory := c.memory.set a value } := by
  refine congrArg (fun memory => { State.of c with memory }) ?_
  show (c.memory.bytes.toList.map UInt8.toNat).set a.toNat value.toNat =
    ((c.memory.bytes.setIfInBounds a.toNat value).toList).map UInt8.toNat
  rw [Array.toList_setIfInBounds, List.map_set]

end State
end Manual
end CoopCpu
