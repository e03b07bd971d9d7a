import CoopCpu.Thread
/-!
# Proofs.Slots — the four slots after a change, and who runs next

What `Slots.update` leaves in each slot (`get_update`), how the number of active slots goes up and down by one when a
single slot changes over (`Switches.activeCount_on`, `Switches.activeCount_off`), and that a hand-over never ends at an
inactive slot while an active one is left (`activeAt_nextRunnable`).
-/
namespace CoopCpu

namespace ThreadSlot

theorem register_setRegister (t : ThreadSlot) (r r' : RegisterIndex) (value : Byte) :
    (t.setRegister r value).register r' = if r' = r then value else t.register r' := by
  have hget : (t.setRegister r value).register r' = if r.val = r'.val then value else t.register r' :=
    Vector.getElem_set r.isLt r'.isLt
  rw [hget]
  by_cases h : r' = r
  · rw [if_pos h, if_pos (congrArg Fin.val h.symm)]
  · rw [if_neg h, if_neg fun e => h (Fin.ext e.symm)]

theorem register_setRegister_of_ne (t : ThreadSlot) {r r' : RegisterIndex} (h : r' ≠ r) (value : Byte) :
    (t.setRegister r value).register r' = t.register r' := by
  rw [register_setRegister, if_neg h]

end ThreadSlot

namespace Slots

theorem ext {s s' : Slots} (h : ∀ i : SlotIndex, s.get i = s'.get i) : s = s' :=
  Vector.ext fun i hi => h ⟨i, hi⟩

theorem get_update (s : Slots) (i j : SlotIndex) (change : ThreadSlot → ThreadSlot) :
    (s.update i change).get j = if j = i then change (s.get i) else s.get j := by
  have h : (s.update i change).get j = if i.val = j.val then change (s.get i) else s.get j :=
    Vector.getElem_set i.isLt j.isLt
  rw [h]
  by_cases hij : j = i
  · rw [if_pos hij, if_pos (congrArg Fin.val hij.symm)]
  · rw [if_neg hij, if_neg fun e => hij (Fin.ext e.symm)]

@[simp] theorem get_update_self (s : Slots) (i : SlotIndex) (change : ThreadSlot → ThreadSlot) :
    (s.update i change).get i = change (s.get i) := by
  rw [get_update, if_pos rfl]

theorem get_update_of_ne (s : Slots) {i j : SlotIndex} (h : j ≠ i) (change : ThreadSlot → ThreadSlot) :
    (s.update i change).get j = s.get j := by
  rw [get_update, if_neg h]

theorem update_update (s : Slots) (i : SlotIndex) (first second : ThreadSlot → ThreadSlot) :
    (s.update i first).update i second = s.update i fun t => second (first t) := by
  refine ext fun j => ?_
  by_cases h : j = i
  · rw [h, get_update_self, get_update_self, get_update_self]
  · rw [get_update_of_ne _ h, get_update_of_ne _ h, get_update_of_ne _ h]

/-- A reading of a slot that a change leaves alone is left alone in all of them. -/
theorem reading_update {α : Type} (reading : ThreadSlot → α) (s : Slots) (i j : SlotIndex)
    {change : ThreadSlot → ThreadSlot} (h : ∀ t, reading (change t) = reading t) :
    reading ((s.update i change).get j) = reading (s.get j) := by
  rw [get_update]
  by_cases hij : j = i
  · rw [if_pos hij, h, hij]
  · rw [if_neg hij]

theorem activeAt_iff (s : Slots) (i : SlotIndex) : s.activeAt i = true ↔ (s.get i).pc ≠ 0 := by
  unfold activeAt ThreadSlot.isActive
  exact bne_iff_ne

theorem activeCount_eq_zero_iff (s : Slots) : s.activeCount = 0 ↔ ∀ i : SlotIndex, (s.get i).pc = 0 := by
  unfold activeCount
  rw [List.countP_eq_zero]
  constructor
  · intro h i
    have := h i (List.mem_finRange i)
    rw [activeAt_iff] at this
    exact Classical.not_not.1 this
  · intro h i _
    rw [activeAt_iff]
    exact fun hi => hi (h i)

theorem get_starting (entry : Address) (i : SlotIndex) :
    (starting entry).get i = if i = 0 then { ThreadSlot.empty with pc := entry } else ThreadSlot.empty := by
  have hget : (starting entry).get i = if 0 = i.val then { ThreadSlot.empty with pc := entry } else
      (Vector.replicate 4 ThreadSlot.empty).get i := Vector.getElem_set (by decide) i.isLt
  have hempty : (Vector.replicate 4 ThreadSlot.empty).get i = ThreadSlot.empty := Vector.getElem_replicate i.isLt
  rw [hget, hempty]
  by_cases h : i = 0
  · rw [if_pos h]; exact if_pos (congrArg Fin.val h).symm
  · rw [if_neg h]; exact if_neg fun e => h (Fin.ext e.symm)

/-! ## How many slots are active -/

theorem finRange_four : List.finRange 4 = [0, 1, 2, 3] := by decide

theorem activeAt_update (s : Slots) (i j : SlotIndex) (change : ThreadSlot → ThreadSlot) :
    (s.update i change).activeAt j = if j = i then (change (s.get i)).isActive else s.activeAt j := by
  unfold activeAt
  rw [get_update]
  by_cases h : j = i
  · rw [if_pos h, if_pos h]
  · rw [if_neg h, if_neg h]

theorem activeCount_congr {s s' : Slots} (h : ∀ i, s'.activeAt i = s.activeAt i) : s'.activeCount = s.activeCount := by
  have : s'.activeAt = s.activeAt := funext h
  unfold activeCount
  rw [this]

theorem firstInactive_congr {s s' : Slots} (h : ∀ i, s'.activeAt i = s.activeAt i) :
    s'.firstInactive = s.firstInactive := by
  have : s'.activeAt = s.activeAt := funext h
  unfold firstInactive
  rw [this]

theorem nextRunnable_congr {s s' : Slots} (h : ∀ i, s'.activeAt i = s.activeAt i) (i : SlotIndex) :
    s'.nextRunnable i = s.nextRunnable i := by
  have : s'.activeAt = s.activeAt := funext h
  unfold nextRunnable firstActiveAfter
  rw [this]

theorem mask_congr {s s' : Slots} (h : ∀ i, s'.activeAt i = s.activeAt i) : s'.mask = s.mask := by
  have : s'.activeAt = s.activeAt := funext h
  unfold mask
  rw [this]

theorem activeCount_le (s : Slots) : s.activeCount ≤ 4 := List.countP_le_length

/-- A predicate that holds of one more element of a list counts one more. -/
theorem countP_of_switch {α : Type} {p q : α → Bool} {i : α} (off : p i = false) (on : q i = true)
    (others : ∀ j, j ≠ i → q j = p j) : ∀ {l : List α}, l.Nodup → i ∈ l → l.countP q = l.countP p + 1
  | [], _, hm => by cases hm
  | j :: l, hn, hm => by
    obtain ⟨hj, hl⟩ := List.nodup_cons.1 hn
    by_cases h : j = i
    · subst h
      have same : l.countP q = l.countP p :=
        List.countP_congr fun k hk => by rw [others k fun e => hj (e ▸ hk)]
      rw [List.countP_cons_of_pos on, List.countP_cons_of_neg (by simp [off]), same]
    · have hrest := countP_of_switch off on others hl ((List.mem_cons.1 hm).resolve_left (Ne.symm h))
      rw [List.countP_cons, List.countP_cons, others j h, hrest]
      omega

/-- Slot `i` was the other way before and is `on` now, and the other slots are active as before. -/
structure Switches (s s' : Slots) (i : SlotIndex) (on : Bool) : Prop where
  before : s.activeAt i = !on
  after : s'.activeAt i = on
  others : ∀ j, j ≠ i → s'.activeAt j = s.activeAt j

theorem Switches.activeCount_on {s s' : Slots} {i : SlotIndex} (h : s.Switches s' i true) :
    s'.activeCount = s.activeCount + 1 :=
  countP_of_switch h.before h.after h.others (List.nodup_finRange 4) (List.mem_finRange i)

theorem Switches.activeCount_off {s s' : Slots} {i : SlotIndex} (h : s.Switches s' i false) :
    s.activeCount = s'.activeCount + 1 :=
  countP_of_switch h.after h.before (fun j hj => (h.others j hj).symm) (List.nodup_finRange 4) (List.mem_finRange i)

theorem activeCount_starting {entry : Address} (h : entry ≠ 0) : (starting entry).activeCount = 1 := by
  have hempty (i : SlotIndex) : (Vector.replicate 4 ThreadSlot.empty).get i = ThreadSlot.empty :=
    Vector.getElem_replicate i.isLt
  have hswitch : Switches (Vector.replicate 4 ThreadSlot.empty) (starting entry) 0 true :=
    { before := by unfold activeAt; rw [hempty]; rfl
      after := by rw [activeAt_iff, get_starting, if_pos rfl]; exact h
      others := fun j hj => by unfold activeAt; rw [get_starting, if_neg hj, hempty] }
  rw [hswitch.activeCount_on, (activeCount_eq_zero_iff _).2 fun i => by rw [hempty]; rfl]

theorem activeAt_of_firstInactive {s : Slots} {i : SlotIndex} (h : s.firstInactive = some i) : s.activeAt i = false := by
  have := List.find?_some h
  simpa using this

theorem activeAt_of_firstInactive_none {s : Slots} (h : s.firstInactive = none) (i : SlotIndex) : s.activeAt i = true := by
  have := List.find?_eq_none.1 h i (List.mem_finRange i)
  simpa using this

theorem activeCount_of_firstInactive {s : Slots} (h : s.firstInactive = none) : s.activeCount = 4 :=
  List.countP_eq_length.2 fun i _ => activeAt_of_firstInactive_none h i

/-! ## Who runs next -/

theorem mem_following (i j : SlotIndex) : j ∈ following i := by revert i j; decide

/-- **A hand-over ends at an active slot**, if there is one. -/
theorem activeAt_nextRunnable {s : Slots} (h : s.activeCount ≠ 0) (i : SlotIndex) :
    s.activeAt (s.nextRunnable i) = true := by
  unfold nextRunnable firstActiveAfter
  cases hf : (following i).find? s.activeAt with
  | some k => exact List.find?_some hf
  | none =>
    have hnone := List.find?_eq_none.1 hf
    refine absurd ((activeCount_eq_zero_iff s).2 fun j => ?_) h
    have := hnone j (mem_following i j)
    rw [activeAt_iff] at this
    exact Classical.not_not.1 this

theorem following_eq (i : SlotIndex) : following i.val = [i + 1, i + 2, i + 3, i] := by revert i; decide

theorem nextRunnable_eq (s : Slots) (i : SlotIndex) :
    s.nextRunnable i = ([i + 1, i + 2, i + 3, i].find? s.activeAt).getD i := by
  unfold nextRunnable firstActiveAfter
  rw [following_eq]

theorem nextRunnable_of_activeAt {s : Slots} {i : SlotIndex} (h : s.activeAt (i + 1) = true) :
    s.nextRunnable i = i + 1 := by
  rw [nextRunnable_eq, List.find?_cons_of_pos h]
  rfl

/-- **A circle that leaves out an inactive slot at its beginning finds the same slot.** -/
theorem nextRunnable_succ {s : Slots} (h : s.activeCount ≠ 0) {i : SlotIndex} (off : s.activeAt (i + 1) = false) :
    s.nextRunnable (i + 1) = s.nextRunnable i := by
  have shifted : ∀ i : SlotIndex, i + 1 + 1 = i + 2 ∧ i + 1 + 2 = i + 3 ∧ i + 1 + 3 = i := by decide
  obtain ⟨second, third, fourth⟩ := shifted i
  have found := activeAt_nextRunnable h i
  rw [nextRunnable_eq] at found
  rw [nextRunnable_eq, nextRunnable_eq, second, third, fourth]
  by_cases h2 : s.activeAt (i + 2) = true
  · simp [off, h2]
  by_cases h3 : s.activeAt (i + 3) = true
  · simp [off, h2, h3]
  by_cases h4 : s.activeAt i = true
  · simp [off, h2, h3, h4]
  · simp [off, h2, h3, h4] at found

end Slots
end CoopCpu
