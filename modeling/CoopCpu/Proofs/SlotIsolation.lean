import CoopCpu.Proofs.ThreadCount
/-!
# Proofs.SlotIsolation — a thread leaves the slots of the others alone

An effect sets one register at the most, of the running slot, and one program counter at the most (`Core.apply_pc`).  With
all that a tick can come to for the slots (`Machine.slotsTicked`) it follows that a tick changes nothing in a slot that it
does not fetch for, unless a spawn starts a thread there, and in the fetched slot one register at the most
(`slots_isolated`).
-/
namespace CoopCpu
namespace Core

variable {c : Core} {i : Instruction} {effect : Effect}

/-! ## One effect -/

/-- The slot whose program counter an effect sets, and what to. -/
def counterSet? (c : Core) : Effect → Option (SlotIndex × Address)
  | .jump target => some (c.active, target)
  | .retire => some (c.active, 0)
  | .start slot entry => some (slot, entry)
  | _ => none

/-- **An effect sets one program counter at the most.** -/
theorem apply_pc (c : Core) (effect : Effect) (j : SlotIndex) : ((c.apply effect).slots.get j).pc =
    match c.counterSet? effect with
    | some (slot, pc) => if j = slot then pc else (c.slots.get j).pc
    | none => (c.slots.get j).pc := by
  have moved (slot : SlotIndex) (pc : Address) : ((c.slots.update slot fun t => { t with pc }).get j).pc =
      if j = slot then pc else (c.slots.get j).pc := by
    rw [Slots.get_update]
    by_cases h : j = slot
    · rw [if_pos h, if_pos h]
    · rw [if_neg h, if_neg h]
  have kept (change : ThreadSlot → ThreadSlot) (h : ∀ t, (change t).pc = t.pc) :
      ((c.updateActive change).slots.get j).pc = (c.slots.get j).pc :=
    Slots.reading_update ThreadSlot.pc c.slots c.active j h
  cases effect with
  | none | handOver | store _ _ => rfl
  | jump target => exact moved c.active target
  | retire => exact moved c.active 0
  | start slot entry => exact moved slot entry
  | calculate r result => cases result <;> exact kept _ fun _ => rfl
  | setRegister _ _ | setFlags _ | testAndSet _ _ _ => exact kept _ fun _ => rfl

theorem apply_others (c : Core) (effect : Effect) {j : SlotIndex} (h : j ≠ c.active) :
    ((c.apply effect).slots.get j).registers = (c.slots.get j).registers ∧
    ((c.apply effect).slots.get j).flags = (c.slots.get j).flags := by
  have aside (change : ThreadSlot → ThreadSlot) : (c.updateActive change).slots.get j = c.slots.get j :=
    Slots.get_update_of_ne c.slots h change
  cases effect with
  | none | handOver | store _ _ => exact ⟨rfl, rfl⟩
  | start slot entry =>
    exact ⟨Slots.reading_update ThreadSlot.registers c.slots slot j fun _ => rfl,
      Slots.reading_update ThreadSlot.flags c.slots slot j fun _ => rfl⟩
  | calculate r result =>
    cases result <;> exact ⟨congrArg ThreadSlot.registers (aside _), congrArg ThreadSlot.flags (aside _)⟩
  | jump _ | retire | setRegister _ _ | setFlags _ | testAndSet _ _ _ =>
    exact ⟨congrArg ThreadSlot.registers (aside _), congrArg ThreadSlot.flags (aside _)⟩

/-- **An effect sets one register of the running slot at the most.** -/
theorem apply_register (c : Core) (effect : Effect) : ∃ r : RegisterIndex, ∀ r', r' ≠ r →
    ((c.apply effect).slots.get c.active).register r' = (c.slots.get c.active).register r' := by
  have changed (change : ThreadSlot → ThreadSlot) :
      (c.updateActive change).slots.get c.active = change (c.slots.get c.active) := Slots.get_update_self _ _ _
  have kept (change : ThreadSlot → ThreadSlot) (h : ∀ t, (change t).registers = t.registers) (r : RegisterIndex) :
      ((c.updateActive change).slots.get c.active).register r = (c.slots.get c.active).register r := by
    rw [changed]
    exact congrArg (fun registers => Vector.get registers r) (h _)
  cases effect with
  | none | handOver | store _ _ => exact ⟨0, fun _ _ => rfl⟩
  | start slot entry =>
    refine ⟨0, fun r' _ => ?_⟩
    exact congrArg (fun registers => Vector.get registers r')
      (Slots.reading_update ThreadSlot.registers c.slots slot c.active fun _ => rfl)
  | setRegister r value =>
    refine ⟨r, fun r' h => ?_⟩
    show ((c.updateActive _).slots.get c.active).register r' = _
    rw [changed, ThreadSlot.register_setRegister_of_ne _ h]
  | calculate r result =>
    cases result with
    | none =>
      refine ⟨r, fun r' _ => kept _ ?_ r'⟩
      exact fun _ => rfl
    | some value =>
      refine ⟨r, fun r' h => ?_⟩
      show ((c.updateActive _).slots.get c.active).register r' = _
      rw [changed]
      exact ThreadSlot.register_setRegister_of_ne _ h value
  | jump _ | retire | setFlags _ | testAndSet _ _ _ =>
    refine ⟨0, fun r' _ => kept _ ?_ r'⟩
    exact fun _ => rfl

/-! ## The fetch -/

theorem get_fetched_of_ne (c : Core) {j : SlotIndex} (h : j ≠ c.fetchedSlot) :
    c.fetched.slots.get j = c.slots.get j := by
  rw [fetched_eq]
  exact Slots.get_update_of_ne c.slots h _

theorem register_fetched (c : Core) (j : SlotIndex) (r : RegisterIndex) :
    (c.fetched.slots.get j).register r = (c.slots.get j).register r := by
  rw [fetched_eq]
  exact Slots.reading_update (fun t => t.register r) c.slots c.fetchedSlot j fun _ => rfl

/-! ## Where a program counter goes -/

/-- Where a jump goes, if the instruction is one. -/
def jumpTarget? (c : Core) : Instruction → Option Address
  | .jump target | .jumpIfZero _ target | .jumpUnlessZero _ target => some target
  | .jumpRegister code => (c.register code).toOption
  | _ => none

theorem jumpTarget?_of_evaluate {target : Address} (h : c.evaluate i = .ok (.jump target)) :
    c.jumpTarget? i = some target := by
  have hsource := source_of_evaluate h
  cases i with
  | jump a =>
    cases (jumpTo_ok h).1
    rfl
  | jumpRegister code =>
    obtain ⟨a, ha, h⟩ := eq_ok_of_bind h
    cases (jumpTo_ok h).1
    show (c.register code).toOption = some target
    rw [ha]
    rfl
  | jumpIfZero code a =>
    obtain ⟨value, -, h⟩ := eq_ok_of_bind h
    by_cases hz : value = 0
    · rw [if_pos hz] at h
      cases (jumpTo_ok h).1
      rfl
    · rw [if_neg hz] at h
      cases h
  | jumpUnlessZero code a =>
    obtain ⟨value, -, h⟩ := eq_ok_of_bind h
    by_cases hz : value = 0
    · rw [if_pos hz] at h
      cases h
    · rw [if_neg hz] at h
      cases (jumpTo_ok h).1
      rfl
  | _ => exact absurd hsource.1 Bool.false_ne_true

end Core

namespace Machine

/-! ## One tick -/

/-- The next tick completes a spawn that starts a thread in slot `j`. -/
structure Starts (m : Machine) (j : SlotIndex) (target : Address) : Prop where
  completed : m.completed? = some (.spawn target)
  lowest : m.core.slots.firstInactive = some j

/-- What a tick can come to for the slots, and the instruction that it completes. -/
inductive SlotsTicked (m : Machine) : Slots → Option Instruction → Prop
  | unfetched (h : ∀ f, ¬ m.Fetches f) : SlotsTicked m m.core.slots none
  | atEnd (h : m.Fetches m.core.fetchedSlot) (halted : m.tick.halted = true)
    (reason : m.tick.reason = some (.programCounterOverflow m.core.fetchAddress)) : SlotsTicked m m.core.slots none
  | faulted (h : m.Fetches m.core.fetchedSlot) (ready : m.core.Ready) : SlotsTicked m m.core.fetched.slots none
  | completed (h : m.Fetches m.core.fetchedSlot) (ready : m.core.Ready) {i : Instruction} {effect : Effect}
    (he : m.core.fetched.evaluate i = .ok effect) :
    SlotsTicked m (m.core.fetched.apply effect).slots (some i)

theorem slotsTicked (m : Machine) : SlotsTicked m m.tick.core.slots m.completed? := by
  cases running : m.halted with
  | true =>
    rw [completed?_of_halted running, tick_of_halted running]
    exact .unfetched fun f h => absurd (running.symm.trans h.running) (by decide)
  | false =>
    rw [slots_tick m running]
    have hstepped := m.stepped
    cases hfault : m.nextStep.2 with
    | some fault =>
      have halted : m.executed.halted = true := (halted_executed_iff running).2 ⟨fault, hfault⟩
      have htick := tick_of_fault running halted
      have hreason : m.tick.reason = some fault := by rw [htick, executed_of_fault running hfault]
      rw [completed?_of_fault halted]
      rw [hfault] at hstepped
      generalize m.executed.core = c at hstepped
      cases hstepped with
      | idle hidle => exact .unfetched fun f h => absurd hidle h.some_active
      | atEnd some_active past =>
        rw [Core.handOver_eq]
        exact .atEnd ⟨running, some_active, rfl⟩ (by rw [htick]; exact halted) hreason
      | undecoded ready _ => exact .faulted ⟨running, ready.1, rfl⟩ ready
      | refused ready _ _ => exact .faulted ⟨running, ready.1, rfl⟩ ready
    | none =>
      have unfaulted : m.executed.halted = false := by rw [executed_of_done hfault]; exact running
      rw [hfault] at hstepped
      generalize m.executed.core = c at hstepped
      cases hstepped with
      | done ready decoded he =>
        rw [completed?_eq_some_iff.2 ⟨⟨running, ready, decoded⟩, unfaulted⟩]
        exact .completed ⟨running, ready.1, rfl⟩ ready he

/-- What a tick leaves of a slot that it does not fetch for. -/
structure LeavesAlone (m : Machine) (j : SlotIndex) : Prop where
  registers : (m.tick.core.slots.get j).registers = (m.core.slots.get j).registers
  flags : (m.tick.core.slots.get j).flags = (m.core.slots.get j).flags
  started : ∀ target, m.Starts j target → (m.tick.core.slots.get j).pc = target
  counter : (∀ target, ¬ m.Starts j target) → (m.tick.core.slots.get j).pc = (m.core.slots.get j).pc

/-- **A tick leaves every slot alone that it does not fetch for**, but for the thread that a spawn starts there. -/
theorem leavesAlone {m : Machine} {j : SlotIndex} (unfetched : ¬ m.Fetches j) : m.LeavesAlone j := by
  have hs := m.slotsTicked
  -- without a completed instruction there is no spawn, so the whole slot has to be the same
  have aside (same : m.tick.core.slots.get j = m.core.slots.get j) (uncompleted : m.completed? = none) :
      m.LeavesAlone j := by
    refine ⟨by rw [same], by rw [same], fun target start => ?_, fun _ => by rw [same]⟩
    have := start.completed
    rw [uncompleted] at this
    cases this
  generalize hslots : m.tick.core.slots = slots at hs
  generalize hcompleted : m.completed? = completed at hs
  cases hs with
  | unfetched _ => exact aside (by rw [hslots]) hcompleted
  | atEnd _ _ _ => exact aside (by rw [hslots]) hcompleted
  | faulted h ready =>
    have hne : j ≠ m.core.fetchedSlot := fun e => unfetched (e ▸ h)
    exact aside (by rw [hslots, Core.get_fetched_of_ne _ hne]) hcompleted
  | @completed h ready i effect he =>
    have hne : j ≠ m.core.fetchedSlot := fun e => unfetched (e ▸ h)
    have hne' : j ≠ m.core.fetched.active := by rw [Core.active_fetched]; exact hne
    have hfree := Slots.firstInactive_congr (Core.activeAt_fetched ready)
    obtain ⟨hregisters, hflags⟩ := m.core.fetched.apply_others effect hne'
    have hpc := m.core.fetched.apply_pc effect j
    rw [← hslots, Core.get_fetched_of_ne m.core hne] at hregisters hflags hpc
    refine ⟨hregisters, hflags, fun target start => ?_, fun unstarted => ?_⟩
    · obtain rfl : i = .spawn target := Option.some.inj (hcompleted.symm.trans start.completed)
      obtain ⟨slot, hslot, rfl⟩ := Core.evaluate_spawn_ok he
      obtain rfl : j = slot := Option.some.inj (start.lowest.symm.trans (hfree.symm.trans hslot))
      exact hpc.trans (if_pos rfl)
    · have hsource := Core.source_of_evaluate he
      cases effect with
      | jump _ | retire => exact hpc.trans (if_neg hne')
      | start slot entry =>
        obtain ⟨rfl, -, hslot⟩ := hsource
        refine hpc.trans (if_neg ?_)
        rintro rfl
        exact unstarted entry ⟨hcompleted, hfree.symm.trans hslot⟩
      | _ => exact hpc

/-- Where the program counter of the fetched slot can go. -/
inductive CounterGoes (m : Machine) (f : SlotIndex) (pc : Address) : Prop
  /-- On to the next instruction. -/
  | on (h : pc.toNat = (m.core.slots.get f).pc.toNat + 4)
  | jump {i : Instruction} (completed : m.completed? = some i) (target : m.core.fetched.jumpTarget? i = some pc)
    (aboveBase : m.core.base ≤ pc)
  | stop (completed : m.completed? = some .stop) (h : pc = 0)
  | stay (halted : m.tick.halted = true)
    (reason : m.tick.reason = some (.programCounterOverflow (m.core.slots.get f).pc))
    (h : pc = (m.core.slots.get f).pc)

theorem counterGoes {m : Machine} {f : SlotIndex} (fetches : m.Fetches f) :
    m.CounterGoes f (m.tick.core.slots.get f).pc := by
  obtain rfl := fetches.slot
  have hs := m.slotsTicked
  generalize hslots : m.tick.core.slots = slots at hs
  generalize hcompleted : m.completed? = completed at hs
  cases hs with
  | unfetched h => exact absurd fetches (h _)
  | atEnd _ halted reason => exact .stay halted reason rfl
  | faulted _ ready => exact .on (Core.fetched_pc ready)
  | @completed _ ready i effect he =>
    have hsource := Core.source_of_evaluate he
    have hactive := m.core.active_fetched
    have hpc := m.core.fetched.apply_pc effect m.core.fetchedSlot
    cases effect with
    | jump target =>
      rw [hpc.trans (if_pos hactive.symm)]
      exact .jump hcompleted (Core.jumpTarget?_of_evaluate he) (m.core.base_fetched ▸ hsource.2)
    | retire =>
      obtain ⟨rfl, -⟩ := hsource
      exact .stop hcompleted (hpc.trans (if_pos hactive.symm))
    | start slot entry =>
      have hne : m.core.fetchedSlot ≠ slot := by
        rintro rfl
        have hoff := Slots.activeAt_of_firstInactive hsource.2.2
        rw [Core.activeAt_fetched ready, fetches.activeAt] at hoff
        cases hoff
      rw [hpc.trans (if_neg hne)]
      exact .on (Core.fetched_pc ready)
    | _ =>
      rw [show _ = _ from hpc]
      exact .on (Core.fetched_pc ready)

/-- **A thread is brought to 0 only by its stop**, or by a jump there if the base offset allows one. -/
theorem CounterGoes.zero {m : Machine} {f : SlotIndex} (fetches : m.Fetches f) (h : m.CounterGoes f 0) :
    m.completed? = some .stop ∨
    m.core.base = 0 ∧ ∃ i, m.completed? = some i ∧ m.core.fetched.jumpTarget? i = some 0 := by
  cases h with
  | on h => exact absurd h (by simp)
  | jump completed target aboveBase => exact .inr ⟨UInt16.le_antisymm aboveBase UInt16.zero_le, _, completed, target⟩
  | stop completed _ => exact .inl completed
  | stay _ _ h => exact absurd h.symm ((Slots.activeAt_iff _ _).1 fetches.activeAt)

theorem registers_tick {m : Machine} {f : SlotIndex} (fetches : m.Fetches f) : ∃ r : RegisterIndex, ∀ r', r' ≠ r →
    (m.tick.core.slots.get f).register r' = (m.core.slots.get f).register r' := by
  obtain rfl := fetches.slot
  have hs := m.slotsTicked
  generalize m.tick.core.slots = slots at hs ⊢
  generalize m.completed? = completed at hs
  cases hs with
  | unfetched h => exact absurd fetches (h _)
  | atEnd _ _ _ => exact ⟨0, fun _ _ => rfl⟩
  | faulted _ _ => exact ⟨0, fun r' _ => m.core.register_fetched _ r'⟩
  | @completed _ ready i effect he =>
    obtain ⟨r, hr⟩ := m.core.fetched.apply_register effect
    rw [Core.active_fetched] at hr
    exact ⟨r, fun r' h => (hr r' h).trans (m.core.register_fetched _ r')⟩

theorem slots_of_none_active {m : Machine} (h : m.core.slots.activeCount = 0) : m.tick.core.slots = m.core.slots := by
  have hs := m.slotsTicked
  generalize m.tick.core.slots = slots at hs ⊢
  generalize m.completed? = completed at hs
  cases hs with
  | unfetched _ => rfl
  | atEnd fetches _ _ => rfl
  | faulted fetches _ => exact absurd h fetches.some_active
  | completed fetches _ _ => exact absurd h fetches.some_active

/-! ## A run -/

/-- **A slot that is not fetched for stays as it is**, however long that may be, but for a thread that is started there. -/
theorem leftAlone_runIn (w : Surroundings) (m : Machine) (j : SlotIndex) : ∀ n : Nat,
    (∀ t, t < n → ¬ (m.runIn w t).Fetches j) →
    ((m.runIn w n).core.slots.get j).registers = (m.core.slots.get j).registers ∧
    ((m.runIn w n).core.slots.get j).flags = (m.core.slots.get j).flags ∧
    (((m.runIn w n).core.slots.get j).pc = (m.core.slots.get j).pc ∨
      (m.core.slots.get j).pc = 0 ∧ ∃ t target, t < n ∧ (m.runIn w t).Starts j target ∧
        ((m.runIn w n).core.slots.get j).pc = target)
  | 0, _ => ⟨rfl, rfl, .inl rfl⟩
  | n + 1, unfetched => by
    obtain ⟨hregisters, hflags, hpc⟩ := leftAlone_runIn w m j n fun t ht => unfetched t (Nat.lt_succ_of_lt ht)
    have hnext := leavesAlone (unfetched n (Nat.lt_succ_self n))
    refine ⟨hnext.registers.trans hregisters, hnext.flags.trans hflags, ?_⟩
    by_cases hstart : ∃ target, (m.runIn w n).Starts j target
    · obtain ⟨target, start⟩ := hstart
      have hzero : ((m.runIn w n).core.slots.get j).pc = 0 := by
        have hoff := Slots.activeAt_of_firstInactive start.lowest
        rw [← Bool.not_eq_true, Slots.activeAt_iff] at hoff
        exact Classical.not_not.1 hoff
      have hstarted := hnext.started target start
      rcases hpc with hsame | ⟨hoff, -⟩
      · exact .inr ⟨hsame.symm.trans hzero, n, target, Nat.lt_succ_self n, start, hstarted⟩
      · exact .inr ⟨hoff, n, target, Nat.lt_succ_self n, start, hstarted⟩
    · have hkept := hnext.counter (not_exists.1 hstart)
      rcases hpc with hsame | ⟨hoff, t, target, ht, start, hstarted⟩
      · exact .inl (hkept.trans hsame)
      · exact .inr ⟨hoff, t, target, Nat.lt_succ_of_lt ht, start, hkept.trans hstarted⟩

/-- **Threads keep to their own slots.**  A tick fetches for the active slot, or for the next active one if that has ended.
It leaves the registers and flags of every other slot alone, and its program counter unless it is where a spawn starts a
thread.  In the fetched slot one register changes at the most, and the program counter goes on by 4, to the target of a
jump, or to 0; it stays only if there is no room for it to move.  A slot that a run never fetches for keeps everything
but, if it was inactive, its program counter. -/
theorem slots_isolated (m : Machine) (w : Surroundings) :
    (m.core.slots.activeCount = 0 → m.tick.core.slots = m.core.slots) ∧
    (∀ f, m.Fetches f →
      f = (if m.core.slots.activeAt m.core.active then m.core.active else m.core.slots.nextRunnable m.core.active) ∧
      (∀ j, j ≠ f → m.LeavesAlone j) ∧
      (∃ r : RegisterIndex, ∀ r', r' ≠ r →
        (m.tick.core.slots.get f).register r' = (m.core.slots.get f).register r') ∧
      m.CounterGoes f (m.tick.core.slots.get f).pc ∧
      ((m.tick.core.slots.get f).pc = 0 → m.completed? = some .stop ∨
        m.core.base = 0 ∧ ∃ i, m.completed? = some i ∧ m.core.fetched.jumpTarget? i = some 0)) ∧
    ∀ j n, (∀ t, t < n → ¬ (m.runIn w t).Fetches j) →
      ((m.runIn w n).core.slots.get j).registers = (m.core.slots.get j).registers ∧
      ((m.runIn w n).core.slots.get j).flags = (m.core.slots.get j).flags ∧
      (((m.runIn w n).core.slots.get j).pc = (m.core.slots.get j).pc ∨
        (m.core.slots.get j).pc = 0 ∧ ∃ t target, t < n ∧ (m.runIn w t).Starts j target ∧
          ((m.runIn w n).core.slots.get j).pc = target) := by
  refine ⟨slots_of_none_active, fun f fetches => ⟨?_, fun j hj => ?_, registers_tick fetches, counterGoes fetches, ?_⟩,
    leftAlone_runIn w m⟩
  · rw [← fetches.slot, Core.fetchedSlot_eq]
  · exact leavesAlone fun h => hj (h.slot.symm.trans fetches.slot)
  · intro hzero
    have hgoes := counterGoes fetches
    rw [hzero] at hgoes
    exact hgoes.zero fetches

/-- The first tick of a breeding machine starts a thread in slot 1, the second one in slot 2, which neither of them fetches
for. -/
theorem breeding_isolated : breeding.Fetches 0 ∧ breeding.LeavesAlone 1 ∧ breeding.LeavesAlone 3 ∧
    (∀ t, t < 2 → ¬ (breeding.runIn Surroundings.quiet t).Fetches 2) ∧
    ((breeding.runIn Surroundings.quiet 2).core.slots.get 2).pc = 4 ∧
    ∃ t target, t < 2 ∧ (breeding.runIn Surroundings.quiet t).Starts 2 target := by
  have fetches : breeding.Fetches 0 := ⟨by decide, by decide, by decide⟩
  have unfetched : ∀ t, t < 2 → ¬ (breeding.runIn Surroundings.quiet t).Fetches 2 := by
    have first : (breeding.runIn Surroundings.quiet 0).core.fetchedSlot ≠ 2 := by decide
    have second : (breeding.runIn Surroundings.quiet 1).core.fetchedSlot ≠ 2 := by decide
    intro t ht h
    match t, ht with
    | 0, _ => exact first h.slot
    | 1, _ => exact second h.slot
  have started : ((breeding.runIn Surroundings.quiet 2).core.slots.get 2).pc = 4 := by decide
  obtain ⟨-, isolated, run⟩ := slots_isolated breeding Surroundings.quiet
  obtain ⟨-, aside, -⟩ := isolated 0 fetches
  obtain ⟨-, -, hpc⟩ := run 2 2 unfetched
  refine ⟨fetches, aside 1 (by decide), aside 3 (by decide), unfetched, started, ?_⟩
  rcases hpc with hsame | ⟨-, t, target, ht, start, -⟩
  · rw [started] at hsame
    exact absurd hsame (by decide)
  · exact ⟨t, target, ht, start⟩

end Machine
end CoopCpu
