import CoopCpu.Proofs.ThreadCount
/-!
# Proofs.Comparison — a comparison has one outcome

Of two numbers one is less, or they are equal.  The three flags of a slot are only ever set all at once and after a comparison
(`exclusive_of_evaluate`), so at most one of them is set, and so it stays (`Core.Exclusive.stepped`).
-/
namespace CoopCpu

/-- The last comparison came out in one way, or there has been none. -/
def Flags.Exclusive (f : Flags) : Prop := [f.equal, f.less, f.greater].count true ≤ 1

instance (f : Flags) : Decidable f.Exclusive := inferInstanceAs (Decidable (_ ≤ 1))

theorem Flags.exclusive_ofCompare (left right : UInt16) : (Flags.ofCompare left right).Exclusive := by
  have one_of_three : ∀ e l g : Bool, (e && l) = false → (e && g) = false → (l && g) = false →
      [e, l, g].count true ≤ 1 := by decide
  have unless_equal {p : Prop} [Decidable p] (h : left = right → ¬ p) : (left == right && decide p) = false := by
    by_cases equal : left = right
    · rw [decide_eq_false (h equal), Bool.and_false]
    · rw [beq_eq_false_iff_ne.2 equal, Bool.false_and]
  refine one_of_three (left == right) (decide (left < right)) (decide (right < left)) (unless_equal ?_) (unless_equal ?_) ?_
  · rintro rfl
    exact UInt16.lt_irrefl left
  · rintro rfl
    exact UInt16.lt_irrefl left
  · by_cases less : left < right
    · rw [decide_eq_false (UInt16.lt_asymm less), Bool.and_false]
    · rw [decide_eq_false less, Bool.false_and]

/-- The flags that an effect sets all at once. -/
def Effect.flags? : Effect → Option Flags
  | .setFlags flags | .testAndSet flags _ _ => some flags
  | _ => Option.none

namespace Core

variable {c : Core} {i : Instruction} {effect : Effect}

theorem ofCompare_of_setFlags {flags : Flags} (h : c.evaluate i = .ok (.setFlags flags)) :
    ∃ left right, flags = Flags.ofCompare left right := by
  cases i with
  | compare left right =>
    obtain ⟨l, -, h⟩ := eq_ok_of_bind h
    obtain ⟨r, -, h⟩ := eq_ok_of_bind h
    cases h
    exact ⟨l, r, rfl⟩
  | halt | yield => cases h
  | stop =>
    rw [evaluate] at h
    split at h <;> cases h
  | spawn target =>
    obtain ⟨slot, -, h⟩ := evaluate_spawn_ok h
    cases h
  | jump target => cases (jumpTo_ok h).1
  | jumpRegister code =>
    obtain ⟨target, -, h⟩ := eq_ok_of_bind h
    cases (jumpTo_ok h).1
  | jumpIfZero code target =>
    obtain ⟨value, -, h⟩ := eq_ok_of_bind h
    by_cases hz : value = 0
    · rw [if_pos hz] at h
      cases (jumpTo_ok h).1
    · rw [if_neg hz] at h
      cases h
  | jumpUnlessZero code target =>
    obtain ⟨value, -, h⟩ := eq_ok_of_bind h
    by_cases hz : value = 0
    · rw [if_pos hz] at h
      cases h
    · rw [if_neg hz] at h
      cases (jumpTo_ok h).1
  | setValue value code | clear code | bitNot code =>
    obtain ⟨r, -, h⟩ := eq_ok_of_bind h
    cases h
  | increment code | decrement code | shiftLeft code | shiftRight code =>
    rw [evaluate] at h
    obtain ⟨r, -, h⟩ := eq_ok_of_bind h
    cases h
  | load position code | store code position | move source destination =>
    obtain ⟨value, -, h⟩ := eq_ok_of_bind h
    obtain ⟨r, -, h⟩ := eq_ok_of_bind h
    cases h
  | add source destination | subtract source destination | bitAnd source destination | bitOr source destination
  | bitXor source destination =>
    obtain ⟨value, -, h⟩ := eq_ok_of_bind h
    obtain ⟨r, -, h⟩ := eq_ok_of_bind h
    cases h
  | loadIndirect source destination =>
    obtain ⟨position, -, h⟩ := eq_ok_of_bind h
    obtain ⟨value, -, h⟩ := eq_ok_of_bind h
    obtain ⟨r, -, h⟩ := eq_ok_of_bind h
    cases h
  | testAndSet position offset =>
    rw [evaluate] at h
    by_cases hlt : offset.toNat < 8
    · rw [dif_pos hlt] at h
      obtain ⟨b, -, h⟩ := eq_ok_of_bind h
      cases h
    · rw [dif_neg hlt] at h
      cases h

/-- **Flags that are set all at once come from a comparison.** -/
theorem exclusive_of_evaluate (h : c.evaluate i = .ok effect) : ∀ flags, effect.flags? = some flags → flags.Exclusive := by
  intro flags hf
  have source := source_of_evaluate h
  cases effect with
  | testAndSet flags' position value =>
    obtain ⟨k, b, -, -, rfl, -⟩ := source
    cases hf
    exact Flags.exclusive_ofCompare _ _
  | setFlags flags' =>
    cases hf
    obtain ⟨left, right, rfl⟩ := ofCompare_of_setFlags h
    exact Flags.exclusive_ofCompare left right
  | _ => cases hf

/-- In every slot the last comparison came out in one way. -/
def Exclusive (c : Core) : Prop := ∀ j : SlotIndex, (c.slots.get j).flags.Exclusive

namespace Exclusive

theorem update (h : c.Exclusive) (j : SlotIndex) (change : ThreadSlot → ThreadSlot)
    (changed : (change (c.slots.get j)).flags.Exclusive) : { c with slots := c.slots.update j change }.Exclusive := by
  intro k
  rw [Slots.get_update]
  by_cases hk : k = j
  · rw [if_pos hk]
    exact changed
  · rw [if_neg hk]
    exact h k

/-- **An effect keeps the flags exclusive** if those that it sets all at once are. -/
theorem apply (h : c.Exclusive) : ∀ {effect : Effect}, (∀ flags, effect.flags? = some flags → flags.Exclusive) →
    (c.apply effect).Exclusive
  | .none, _ | .handOver, _ | .store _ _, _ => h
  | .jump target, _ => h.update c.active (fun t => { t with pc := target }) (h c.active)
  | .retire, _ => h.update c.active (fun t => { t with pc := 0 }) (h c.active)
  | .start slot entry, _ => h.update slot (fun t => { t with pc := entry }) (h slot)
  | .setRegister r value, _ => h.update c.active (fun t => t.setRegister r value) (h c.active)
  | .calculate r (some value), _ =>
    h.update c.active (fun t => { t.setRegister r value with flags := { t.flags with overflow := false } }) (h c.active)
  | .calculate _ none, _ =>
    h.update c.active (fun t => { t with flags := { t.flags with overflow := true } }) (h c.active)
  | .setFlags flags, set => h.update c.active (fun t => { t with flags }) (set flags rfl)
  | .testAndSet flags _ _, set => h.update c.active (fun t => { t with flags }) (set flags rfl)

theorem fetched (h : c.Exclusive) : c.fetched.Exclusive := by
  rw [fetched_eq]
  exact h.update c.fetchedSlot (fun t => { t with pc := t.pc + 4 }) (h c.fetchedSlot)

theorem stepped (h : c.Exclusive) {t : Table} {c' : Core} {fault? : Option Fault} (hs : Stepped t c c' fault?) :
    c'.Exclusive := by
  cases hs with
  | idle _ => exact h
  | atEnd _ _ => rw [handOver_eq]; exact h
  | undecoded _ _ | refused _ _ _ => exact h.fetched
  | done _ _ he => exact h.fetched.apply (exclusive_of_evaluate he)

end Exclusive

theorem exclusive_starting (memory : Memory) (base : Address) : (Core.starting memory base).Exclusive := by
  intro j
  have clear : Flags.clear.Exclusive := by decide
  show ((Slots.starting base).get j).flags.Exclusive
  rw [Slots.get_starting]
  by_cases h : j = 0
  · rw [if_pos h]; exact clear
  · rw [if_neg h]; exact clear

end Core

end CoopCpu
