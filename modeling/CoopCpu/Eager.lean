import CoopCpu.Surroundings
/-!
# Eager — a stop that looks for the next thread itself

After a stop the slot to look at next is the one behind it, active or not; an inactive slot is passed over when the next
instruction is fetched.  A stop might as well look for the next active slot itself, as a yield does.  `performEagerly` is
the processor with this one instruction changed.  What surrounds an instruction is written for any way of carrying
instructions out, and with `Action.perform` it is the machine as it is (`runBy_perform`).
-/
namespace CoopCpu

namespace Action

/-- A stop that hands over to the next active slot. -/
def stopEagerly : Action Unit := do
  let c ← get
  if c.slots.activeCount ≤ 1 then throw .onlyOneThreadActive
  setCounter c.active 0
  let c ← get
  setActive (c.slots.nextRunnable c.active)

/-- Carries out an instruction of the running thread, a stop eagerly. -/
def performEagerly : Instruction → Action Unit
  | .stop => stopEagerly
  | i => perform i

end Action

variable (perform : Instruction → Action Unit)

namespace Core

def executeBy (c : Core) (i : Instruction) : Core × Option Fault :=
  match (perform i).run c with
  | (.ok (), c') => (c', none)
  | (.error fault, c') => (c', some fault)

def stepBy (t : Table) (c : Core) : Core × Option Fault :=
  match c.fetchInstruction t with
  | (c', .ok i) => c'.executeBy perform i
  | (c', .error fault) => (c', some fault)

theorem stepBy_perform (t : Table) (c : Core) : c.stepBy Action.perform t = c.step t := rfl

end Core

namespace Machine

def executedBy (m : Machine) : Machine :=
  let (core, fault) := m.core.stepBy perform m.table
  let m' := { m with core }
  match fault with
  | none => m'
  | some f => m'.halt f

def tickBy (m : Machine) : Machine :=
  if m.halted then m
  else
    let m' := m.executedBy perform
    if m'.halted then m' else m'.serviceDevices

def runBy (w : Surroundings) (m : Machine) : Nat → Machine
  | 0 => { m with devices := w 0 m }
  | n + 1 =>
    let m' := (runBy w m n).tickBy perform
    { m' with devices := w (n + 1) m' }

theorem tickBy_perform (m : Machine) : m.tickBy Action.perform = m.tick := rfl

/-- **Nothing but the instructions depends on how they are carried out.** -/
theorem runBy_perform (w : Surroundings) (m : Machine) : ∀ n : Nat, m.runBy Action.perform w n = m.runIn w n
  | 0 => rfl
  | n + 1 => by
    unfold runBy runIn
    rw [runBy_perform w m n, tickBy_perform]

end Machine
end CoopCpu
