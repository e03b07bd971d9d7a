import CoopCpu.Proofs.SlotIsolation
/-!
# Proofs.Runway — only a jump or a new thread gives a machine more time

A thread that goes straight on has only so many instructions before its counter is at the end of the address space: its
`ThreadSlot.runway`.  The runways of the four slots add up to 65532 at the most (`Slots.runway_le`).  A completed
instruction uses up a piece of them (`Core.runway_fetched`), and unless it jumps or starts a thread it gives nothing back
(`Core.runway_apply`), so a machine that runs for longer has jumped or started a thread (`only_jumps_and_spawns_prolong`).
-/
namespace CoopCpu

/-- How many instructions can be fetched for the thread one after another. -/
def ThreadSlot.runway (t : ThreadSlot) : Nat := if t.pc = 0 then 0 else (65535 - t.pc.toNat) / 4

theorem ThreadSlot.runway_le (t : ThreadSlot) : t.runway ≤ 16383 := by
  unfold runway
  by_cases h : t.pc = 0
  · rw [if_pos h]
    exact Nat.zero_le _
  · rw [if_neg h]
    have : t.pc.toNat ≠ 0 := fun e => h (UInt16.toNat_inj.1 e)
    omega

namespace Slots

variable {s s' : Slots}

def runway (s : Slots) : Nat := (s.get 0).runway + (s.get 1).runway + (s.get 2).runway + (s.get 3).runway

theorem runway_le (s : Slots) : s.runway ≤ 65532 := by
  have h (i : SlotIndex) := (s.get i).runway_le
  have := h 0
  have := h 1
  have := h 2
  have := h 3
  unfold runway
  omega

theorem runway_mono (h : ∀ i, (s'.get i).runway ≤ (s.get i).runway) : s'.runway ≤ s.runway := by
  have := h 0
  have := h 1
  have := h 2
  have := h 3
  unfold runway
  omega

theorem runway_of_less {i : SlotIndex} (less : (s'.get i).runway + 1 = (s.get i).runway)
    (others : ∀ j, j ≠ i → s'.get j = s.get j) : s'.runway + 1 = s.runway := by
  unfold runway
  match i with
  | 0 => rw [others 1 (by decide), others 2 (by decide), others 3 (by decide)]; omega
  | 1 => rw [others 0 (by decide), others 2 (by decide), others 3 (by decide)]; omega
  | 2 => rw [others 0 (by decide), others 1 (by decide), others 3 (by decide)]; omega
  | 3 => rw [others 0 (by decide), others 1 (by decide), others 2 (by decide)]; omega

end Slots

namespace Core

variable {c : Core} {i : Instruction} {effect : Effect}

/-- Whether an instruction of the running thread is a jump that is taken: one without a condition, or one whose condition
holds. -/
def takesJump (c : Core) : Instruction → Bool
  | .jump _ | .jumpRegister _ => true
  | .jumpIfZero code _ => (c.register code).toOption.any (· == 0)
  | .jumpUnlessZero code _ => (c.register code).toOption.any (· != 0)
  | _ => false

/-! ## One step -/

/-- **The fetch uses up a piece of the runway** of the slot that it fetches for. -/
theorem runway_fetched (ready : c.Ready) : c.fetched.slots.runway + 1 = c.slots.runway := by
  refine Slots.runway_of_less (i := c.fetchedSlot) ?_ fun j hj => get_fetched_of_ne c hj
  have before : (c.slots.get c.fetchedSlot).pc ≠ 0 := fetchAddress_ne_zero ready.1
  have room : (c.slots.get c.fetchedSlot).pc.toNat + 4 < 65536 := ready.2
  have moved : (c.fetched.slots.get c.fetchedSlot).pc.toNat = (c.slots.get c.fetchedSlot).pc.toNat + 4 := fetched_pc ready
  have after : (c.fetched.slots.get c.fetchedSlot).pc ≠ 0 := by
    intro hzero
    rw [hzero] at moved
    exact absurd moved (Nat.ne_of_lt (Nat.succ_pos _))
  unfold ThreadSlot.runway
  rw [if_neg before, if_neg after, moved]
  omega

theorem takesJump_of_evaluate {target : Address} (h : c.evaluate i = .ok (.jump target)) : c.takesJump i = true := by
  have source := source_of_evaluate h
  cases i with
  | jump _ | jumpRegister _ => rfl
  | jumpIfZero code a =>
    obtain ⟨value, hvalue, h⟩ := eq_ok_of_bind h
    show (c.register code).toOption.any (· == 0) = true
    rw [hvalue]
    by_cases hz : value = 0
    · exact beq_iff_eq.2 hz
    · rw [if_neg hz] at h
      cases h
  | jumpUnlessZero code a =>
    obtain ⟨value, hvalue, h⟩ := eq_ok_of_bind h
    show (c.register code).toOption.any (· != 0) = true
    rw [hvalue]
    by_cases hz : value = 0
    · rw [if_pos hz] at h
      cases h
    · exact bne_iff_ne.2 hz
  | _ => exact absurd source.1 Bool.false_ne_true

/-- **Without a jump and a spawn an instruction gives no runway back**: it leaves every counter where it is or at 0. -/
theorem runway_apply (h : c.evaluate i = .ok effect) (unjumped : c.takesJump i = false)
    (unspawned : i.operation ≠ .spawn) : (c.apply effect).slots.runway ≤ c.slots.runway := by
  have source := source_of_evaluate h
  refine Slots.runway_mono fun j => ?_
  have kept (same : ((c.apply effect).slots.get j).pc = (c.slots.get j).pc) :
      ((c.apply effect).slots.get j).runway ≤ (c.slots.get j).runway := by
    refine Nat.le_of_eq ?_
    unfold ThreadSlot.runway
    rw [same]
  have moved := c.apply_pc effect j
  -- besides a jump and a new thread only a stop sets a counter, and it sets it to 0
  cases effect with
  | jump target =>
    rw [takesJump_of_evaluate h] at unjumped
    cases unjumped
  | start slot entry => exact absurd (congrArg Instruction.operation source.1) unspawned
  | retire =>
    by_cases hj : j = c.active
    · have stopped : ((c.apply .retire).slots.get j).pc = 0 := moved.trans (if_pos hj)
      have spent : ((c.apply .retire).slots.get j).runway = 0 := if_pos stopped
      rw [spent]
      exact Nat.zero_le _
    · exact kept (moved.trans (if_neg hj))
  | _ => exact kept moved

end Core

namespace Machine

variable {w : Surroundings} {m : Machine}

/-- The next tick completes a jump that is taken, or a spawn. -/
def prolongs (m : Machine) : Bool :=
  match m.completed? with
  | some i => m.core.fetched.takesJump i || i.operation == .spawn
  | none => false

theorem prolongs_of_halted (h : m.halted = true) : m.prolongs = false := by
  unfold prolongs
  rw [completed?_of_halted h]

/-! ## One tick -/

theorem running_of_tick (h : m.tick.halted = false) : m.halted = false ∧ m.executed.halted = false := by
  cases running : m.halted with
  | true =>
    rw [tick_of_halted running, running] at h
    cases h
  | false =>
    cases unfaulted : m.executed.halted with
    | true =>
      rw [tick_of_fault running unfaulted, unfaulted] at h
      cases h
    | false => exact ⟨rfl, rfl⟩

/-- **A tick without a taken jump and a spawn brings a machine that goes on nearer to its end.** -/
theorem runway_tick (running : m.tick.halted = false) (straight : m.prolongs = false) :
    m.tick.core.slots.runway + 1 ≤ m.core.slots.runway := by
  obtain ⟨before, unfaulted⟩ := running_of_tick running
  obtain ⟨i, effect, completed, ready, he, hcore⟩ := completed_of_done before (done_of_unfaulted before unfaulted)
  unfold prolongs at straight
  rw [completed] at straight
  obtain ⟨unjumped, unspawned⟩ := Bool.or_eq_false_iff.1 straight
  have applied := Core.runway_apply he unjumped (beq_eq_false_iff_ne.1 unspawned)
  have fetched := Core.runway_fetched ready
  rw [slots_tick m before, hcore]
  omega

/-! ## A run -/

theorem halted_of_runIn_halted {n : Nat} (h : (m.runIn w n).halted = true) :
    ∀ count : Nat, (m.runIn w (n + count)).halted = true
  | 0 => h
  | count + 1 => by
    have before := halted_of_runIn_halted h count
    show (m.runIn w (n + count)).tick.halted = true
    rw [tick_of_halted before]
    exact before

/-- **As long as a run goes straight on, every tick is paid for by a piece of the runway.** -/
theorem runway_runIn {n : Nat} : ∀ {count : Nat}, (m.runIn w (n + count)).halted = false →
    (∀ k, n ≤ k → k < n + count → (m.runIn w k).prolongs = false) →
    (m.runIn w (n + count)).core.slots.runway + count ≤ (m.runIn w n).core.slots.runway
  | 0, _, _ => Nat.le_refl _
  | count + 1, running, straight => by
    have running_tick : (m.runIn w (n + count)).tick.halted = false := running
    have before := runway_runIn (running_of_tick running_tick).1 fun k hnk hk => straight k hnk (Nat.lt_succ_of_lt hk)
    have last := runway_tick running_tick (straight (n + count) (Nat.le_add_right _ _) (Nat.lt_succ_self _))
    show (m.runIn w (n + count)).tick.core.slots.runway + (count + 1) ≤ _
    omega

theorem prolongs_of_running {n : Nat} (running : (m.runIn w (n + 65536)).halted = false) :
    ∃ k, n ≤ k ∧ k < n + 65536 ∧ (m.runIn w k).prolongs = true := by
  refine Classical.byContradiction fun straight => ?_
  have paid := runway_runIn running fun k hnk hk =>
    Bool.eq_false_iff.2 fun h => straight ⟨k, hnk, hk, h⟩
  have := (m.runIn w n).core.slots.runway_le
  omega

theorem halted_of_straight (straight : ∀ k, k < 65536 → (m.runIn w k).prolongs = false) :
    (m.runIn w 65536).halted = true := by
  refine Classical.byContradiction fun running => ?_
  obtain ⟨k, -, hk, prolonged⟩ := prolongs_of_running (n := 0) (w := w) (m := m) (by simpa using running)
  rw [straight k (by omega)] at prolonged
  cases prolonged

/-- **Only jumps and new threads keep a machine running.**  Whatever state it starts in and whatever its devices do, a
machine that has not halted after 65536 more ticks has taken a jump or completed a spawn in one of them.  So a program
that does neither comes to its end within 65536 ticks, and running it to the end gives a result. -/
theorem only_jumps_and_spawns_prolong (w : Surroundings) (m : Machine) :
    (∀ n, (m.runIn w (n + 65536)).halted = false →
      ∃ k, n ≤ k ∧ k < n + 65536 ∧ (m.runIn w k).prolongs = true) ∧
    ((∀ k, k < 65536 → (m.runIn w k).prolongs = false) → (m.runIn w 65536).halted = true) ∧
    ((∀ k, k < 65536 → (ticks k m).prolongs = false) → ∃ m', m.runWithin 65536 = some m' ∧ m'.halted = true) := by
  refine ⟨fun n => prolongs_of_running, halted_of_straight, fun straight => ?_⟩
  have halted : (ticks 65536 m).halted = true := by
    rw [← runIn_quiet]
    exact halted_of_straight fun k hk => by rw [runIn_quiet]; exact straight k hk
  exact ⟨ticks 65536 m, if_pos halted, halted⟩

def circling : Machine := Machine.new ⟨#[0, 0, 0, 0, 4, 0, 4, 0]⟩ 4 Table.builtIn

theorem runIn_circling : ∀ n : Nat, circling.runIn Surroundings.quiet n = circling
  | 0 => rfl
  | n + 1 => by
    have round : circling.tick = circling := by decide
    show (circling.runIn Surroundings.quiet n).tick = circling
    rw [runIn_circling n, round]

/-- Two threads: the first yields, and the second writes the stop over its next instruction that then ends it. -/
def straightOn : Machine :=
  let m := Machine.new ⟨#[0, 0, 0, 0, 1, 0, 0, 0, 0, 0, 0, 0, 0, 0, 0, 0, 9, 0x80, 0, 20, 0, 0, 0, 0]⟩ 4 Table.builtIn
  { m with core := { m.core with slots := m.core.slots.update 2 fun t => { t with pc := 16 } } }

theorem circling_prolongs :
    ((circling.runIn Surroundings.quiet 65536).halted = false ∧
      ∃ k, k < 65536 ∧ (circling.runIn Surroundings.quiet k).prolongs = true) ∧
    (∀ k, k < 65536 → (straightOn.runIn Surroundings.quiet k).prolongs = false) ∧
    (straightOn.runIn Surroundings.quiet 65536).halted = true ∧
    (∀ k, k < 65536 → (ticks k straightOn).prolongs = false) ∧
    ∃ m', straightOn.runWithin 65536 = some m' ∧ m'.halted = true := by
  have running : (circling.runIn Surroundings.quiet (0 + 65536)).halted = false := by
    rw [runIn_circling]
    rfl
  have straight : ∀ k, k < 65536 → (straightOn.runIn Surroundings.quiet k).prolongs = false := by
    have beginning : ∀ k, k < 4 → (straightOn.runIn Surroundings.quiet k).prolongs = false := by decide
    have ended : (straightOn.runIn Surroundings.quiet 4).halted = true := by decide
    intro k _
    by_cases hk : k < 4
    · exact beginning k hk
    · obtain ⟨rest, rfl⟩ := Nat.exists_eq_add_of_le (Nat.le_of_not_lt hk)
      exact prolongs_of_halted (halted_of_runIn_halted ended rest)
  have straight' : ∀ k, k < 65536 → (ticks k straightOn).prolongs = false := fun k hk => by
    rw [← runIn_quiet]
    exact straight k hk
  obtain ⟨k, -, hk, prolonged⟩ := (only_jumps_and_spawns_prolong Surroundings.quiet circling).1 0 running
  obtain ⟨-, halts, returns⟩ := only_jumps_and_spawns_prolong Surroundings.quiet straightOn
  refine ⟨⟨running, k, ?_, prolonged⟩, straight, halts straight, straight', returns straight'⟩
  omega

end Machine
end CoopCpu
