import CoopCpu.Proofs.SlotIsolation
/-!
# Proofs.Bypass — how often a thread is passed over

A hand-over goes round the circle of slots and never past an active one, so it brings the active slot nearer to every
active slot that it does not reach (`Slots.distance_nextRunnable_lt`).  A thread that waits is at most three slots ahead:
unless new threads are started, three hand-overs at the most pass before it is fetched for (`bypassed_at_most_thrice`).
-/
namespace CoopCpu

namespace Slots

/-- How many steps lead round the circle from slot `i` to slot `t`. -/
def distance (i t : SlotIndex) : Nat := (t - i).val

theorem distance_le_three (i t : SlotIndex) : distance i t ≤ 3 := Nat.le_of_lt_succ (t - i).isLt

theorem distance_succ {i t : SlotIndex} (h : i ≠ t) : distance (i + 1) t + 1 = distance i t := by
  revert i t
  decide

/-- **A hand-over comes nearer to an active slot that it does not start from.** -/
theorem distance_nextRunnable_lt {s : Slots} {t : SlotIndex} (active : s.activeAt t = true) (i : SlotIndex)
    (h : i ≠ t) : distance (s.nextRunnable i) t < distance i t := by
  have hsucc := distance_succ h
  cases behind : s.activeAt (i + 1) with
  | true =>
    rw [nextRunnable_of_activeAt behind]
    omega
  | false =>
    have some_active : s.activeCount ≠ 0 := fun hzero =>
      (activeAt_iff s t).1 active ((activeCount_eq_zero_iff s).1 hzero t)
    have hne : i + 1 ≠ t := by
      rintro rfl
      rw [active] at behind
      cases behind
    have hnext := distance_nextRunnable_lt active (i + 1) hne
    rw [nextRunnable_succ some_active behind] at hnext
    omega
  termination_by distance i t
  decreasing_by omega

end Slots

namespace Core

variable {c : Core} {t : SlotIndex}

theorem distance_fetchedSlot_le (active : c.slots.activeAt t = true) :
    Slots.distance c.fetchedSlot t ≤ Slots.distance c.active t := by
  rw [fetchedSlot_eq]
  by_cases h : c.slots.activeAt c.active = true
  · refine Nat.le_of_eq ?_
    rw [if_pos h]
  · rw [if_neg h]
    refine Nat.le_of_lt (Slots.distance_nextRunnable_lt active c.active ?_)
    rintro rfl
    exact h active

/-- How many hand-overs an operation makes. -/
def handOvers : Operation → Nat
  | .yield | .stop => 1
  | _ => 0

/-- **A hand-over brings the turn of a waiting slot nearer**; other instructions, but for a spawn, let it be. -/
theorem distance_apply {i : Instruction} {effect : Effect} (active : c.slots.activeAt t = true) (waiting : c.active ≠ t)
    (h : c.evaluate i = .ok effect) (unspawned : ∀ target, i ≠ .spawn target) :
    Slots.distance (c.apply effect).active t + handOvers i.operation ≤ Slots.distance c.active t := by
  have hsource := source_of_evaluate h
  cases i with
  | spawn target => exact absurd rfl (unspawned target)
  | yield =>
    cases h
    exact Slots.distance_nextRunnable_lt active c.active waiting
  | stop =>
    rw [evaluate] at h
    by_cases last : c.slots.activeCount ≤ 1
    · rw [if_pos last] at h; cases h
    · rw [if_neg last] at h
      cases h
      exact Nat.le_of_eq (Slots.distance_succ waiting)
  -- nothing else comes to an effect that changes the active slot
  | _ =>
    cases effect with
    | handOver => cases hsource
    | retire | start _ _ => cases hsource.1
    | calculate r result => cases result <;> exact Nat.le_refl _
    | _ => exact Nat.le_refl _

end Core

namespace Machine

open CoopCpu.Core (handOvers)

variable {w : Surroundings} {m : Machine} {t : SlotIndex}

/-! ## One tick -/

/-- How many hand-overs the next tick makes. -/
def handsOver (m : Machine) : Nat := (m.completed?.map fun i => handOvers i.operation).getD 0

/-- **A tick that does not fetch for a waiting slot** brings its turn nearer by every hand-over. -/
theorem distance_tick (active : m.core.slots.activeAt t = true) (unfetched : ¬ m.Fetches t)
    (unspawned : ∀ target, m.completed? ≠ some (.spawn target)) :
    Slots.distance m.tick.core.active t + m.handsOver ≤ Slots.distance m.core.active t := by
  unfold handsOver
  cases running : m.halted with
  | true =>
    rw [completed?_of_halted running, tick_of_halted running]
    exact Nat.le_refl _
  | false =>
    have hactive : m.tick.core.active = m.executed.core.active := by rw [core_tick m running]
    have fetched := Core.distance_fetchedSlot_le active
    rw [hactive]
    cases hfault : m.nextStep.2 with
    | some fault =>
      have hstepped := m.stepped
      rw [hfault] at hstepped
      rw [completed?_of_fault ((halted_executed_iff running).2 ⟨fault, hfault⟩)]
      generalize m.executed.core = c at hstepped
      cases hstepped with
      | idle _ => exact Nat.le_refl _
      | atEnd _ _ => exact fetched
      | undecoded _ _ | refused _ _ _ => rw [Core.active_fetched]; exact fetched
    | none =>
      obtain ⟨i, effect, completed, ready, he, hcore⟩ := completed_of_done running hfault
      have waiting : m.core.fetched.active ≠ t := by
        rw [Core.active_fetched]
        exact fun hslot => unfetched ⟨running, ready.1, hslot⟩
      have active' : m.core.fetched.slots.activeAt t = true := by rw [Core.activeAt_fetched ready, active]
      have happly := Core.distance_apply active' waiting he fun target hi => unspawned target (hi ▸ completed)
      rw [Core.active_fetched] at happly
      rw [completed, hcore]
      exact Nat.le_trans happly fetched

theorem activeAt_tick (active : m.core.slots.activeAt t = true) (unfetched : ¬ m.Fetches t)
    (unspawned : ∀ target, m.completed? ≠ some (.spawn target)) : m.tick.core.slots.activeAt t = true := by
  rw [Slots.activeAt_iff] at active ⊢
  rw [(leavesAlone unfetched).counter fun target start => unspawned target start.completed]
  exact active

/-! ## A run -/

theorem completions_handsOver (w : Surroundings) (m : Machine) (n : Nat) :
    m.completions w .yield (n + 1) + m.completions w .stop (n + 1) =
      m.completions w .yield n + m.completions w .stop n + (m.runIn w n).handsOver := by
  rw [completions_succ, completions_succ]
  unfold handsOver
  cases (m.runIn w n).completed? with
  | none => rfl
  | some i =>
    simp only [Option.map_some, Option.some.injEq, Option.getD_some]
    cases i.operation <;> simp [handOvers] <;> omega

/-- **While a thread waits, every hand-over is paid for by a step of the circle.** -/
theorem distance_runIn (active : m.core.slots.activeAt t = true) : ∀ {n : Nat},
    (∀ k, k < n → ¬ (m.runIn w k).Fetches t) →
    (∀ k target, k < n → (m.runIn w k).completed? ≠ some (.spawn target)) →
    (m.runIn w n).core.slots.activeAt t = true ∧
    Slots.distance (m.runIn w n).core.active t + (m.completions w .yield n + m.completions w .stop n) ≤
      Slots.distance m.core.active t
  | 0, _, _ => ⟨active, Nat.le_refl _⟩
  | n + 1, unfetched, unspawned => by
    obtain ⟨hactive, hdistance⟩ := distance_runIn active (fun k hk => unfetched k (Nat.lt_succ_of_lt hk))
      fun k target hk => unspawned k target (Nat.lt_succ_of_lt hk)
    have last := unfetched n (Nat.lt_succ_self n)
    have unspawned_last := fun target => unspawned n target (Nat.lt_succ_self n)
    refine ⟨activeAt_tick hactive last unspawned_last, ?_⟩
    have htick := distance_tick hactive last unspawned_last
    rw [completions_handsOver]
    show Slots.distance (m.runIn w n).tick.core.active t + _ ≤ _
    omega

/-- **No thread is passed over more than three times.**  As long as no new thread is started, at most three hand-overs, by
a yield or by a stop, pass before an active slot is fetched for, whatever the other threads do in between. -/
theorem bypassed_at_most_thrice (w : Surroundings) (m : Machine) (t : SlotIndex) (active : m.core.slots.activeAt t = true)
    (n : Nat) (unfetched : ∀ k, k < n → ¬ (m.runIn w k).Fetches t)
    (unspawned : ∀ k target, k < n → (m.runIn w k).completed? ≠ some (.spawn target)) :
    m.completions w .yield n + m.completions w .stop n ≤ 3 := by
  obtain ⟨-, hdistance⟩ := distance_runIn active unfetched unspawned
  have := Slots.distance_le_three m.core.active t
  omega

/-- Four threads, of which the first three from slot 1 on yield, end and yield. -/
def takingTurns : Machine where
  core := {
    memory := ⟨#[0, 0, 0, 0, 1, 0, 0, 0, 2, 0, 0, 0]⟩
    slots := (((Slots.starting 4).update 1 fun t => { t with pc := 4 }).update 2 fun t => { t with pc := 8 }).update 3
      fun t => { t with pc := 4 }
    active := 1
    base := 4 }
  halted := false
  reason := none
  table := Table.builtIn
  devices := []

/-- The thread in slot 0 is passed over three times, and then it is its turn. -/
theorem takingTurns_bypassed : takingTurns.core.slots.activeAt 0 = true ∧
    (∀ k, k < 3 → ¬ (takingTurns.runIn Surroundings.quiet k).Fetches 0) ∧
    (∀ k target, k < 3 → (takingTurns.runIn Surroundings.quiet k).completed? ≠ some (.spawn target)) ∧
    takingTurns.completions Surroundings.quiet .yield 3 = 2 ∧ takingTurns.completions Surroundings.quiet .stop 3 = 1 ∧
    takingTurns.completions Surroundings.quiet .yield 3 + takingTurns.completions Surroundings.quiet .stop 3 ≤ 3 ∧
    (takingTurns.runIn Surroundings.quiet 3).Fetches 0 := by
  have unfetched : ∀ k, k < 3 → ¬ (takingTurns.runIn Surroundings.quiet k).Fetches 0 := by
    have slots : ∀ k, k < 3 → (takingTurns.runIn Surroundings.quiet k).core.fetchedSlot ≠ 0 := by decide
    exact fun k hk h => slots k hk h.slot
  have unspawned : ∀ k target, k < 3 → (takingTurns.runIn Surroundings.quiet k).completed? ≠ some (.spawn target) := by
    have operations : ∀ k, k < 3 → (takingTurns.runIn Surroundings.quiet k).completed?.map Instruction.operation ≠
      some .spawn := by decide
    exact fun k target hk h => operations k hk (by rw [h]; rfl)
  exact ⟨by decide, unfetched, unspawned, by decide, by decide,
    bypassed_at_most_thrice Surroundings.quiet takingTurns 0 (by decide) 3 unfetched unspawned,
    ⟨by decide, by decide, by decide⟩⟩

end Machine
end CoopCpu
