import Exokernel.Kernel.Basic

/-! Round-robin choice of the next environment, and its dispatch. -/

namespace Exokernel.Kernel

/-- Every slot once, from the one after `start` around the table to `start` itself. -/
def searchOrder (start : Slot) : List Slot :=
  -- The slot that ran last comes last, so it is chosen again only if no other can run.
  (List.range slotCount).map fun step => slotAt (start.val + step + 1)

/--
The next environment to run: the first runnable one after the slot that ran last, and the idle
environment only if there is none.
-/
def pickNext (kernel : Kernel) : Option Slot :=
  -- Before the first dispatch the search starts behind the idle slot.
  let ready (slot : Slot) : Bool := (kernel.envAt slot).isRunnable
  match (searchOrder (kernel.lastRun.getD idleSlot)).find? fun slot =>
      slot != idleSlot && ready slot with
  | some slot => some slot
  | none => if ready idleSlot then some idleSlot else none

/-- Gives the processor to an environment. -/
def run (kernel : Kernel) (slot : Slot) : Dispatch × Kernel :=
  -- Ownership, the search position and the address space change together.
  let env := kernel.envAt slot
  if env.isRunnable then
    let kernel := kernel.modifyEnv slot fun env => { env with runs := env.runs + 1 }
    let memory := kernel.memory.activate env.space
    (.resume env.id env.frame,
      { kernel with current := some slot, lastRun := some slot, memory })
  else kernel.halt (.panic (.notRunnable env.id env.status))

/-- Gives the processor to the next environment, or stops if none can run. -/
def reschedule (kernel : Kernel) : Dispatch × Kernel :=
  -- With nobody to run there is nothing to wait for.
  match kernel.pickNext with
  | some slot => kernel.run slot
  | none => kernel.halt .idle

end Exokernel.Kernel
