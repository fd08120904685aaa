import Exokernel.Proofs.Kernel.Calls
import Exokernel.Proofs.Kernel.Isolation

/-! A trap that ends with its environment destroyed is the end of that environment only. -/

namespace Exokernel.Kernel

variable {kernel : Kernel} {owner : Slot} {frame : TrapFrame} {outcome : Dispatch × Kernel}

/-- A kernel entry is the end of the environment in a slot, and of no other one. -/
structure Removes (kernel : Kernel) (slot : Slot) (outcome : Dispatch × Kernel) : Prop where
  /-- The environment does not exist any more. -/
  gone : outcome.2.env? (kernel.envAt slot).id = none
  /-- It is not the one that goes on. -/
  passed : outcome.1.resumes (kernel.envAt slot).id = false
  /-- The others exist with their mappings; at most a run counter moves. -/
  others : ∀ other, other ≠ slot → (kernel.envAt other).isLive = true →
    kernel.Untouched outcome other
  /-- Nothing is written to the console. -/
  console_eq : outcome.2.console = kernel.console

/-- Nothing is printed when the processor is given away. -/
theorem Ends.console_eq (ends : kernel.Ends outcome) : outcome.2.console = kernel.console := by
  -- Only the log of the monitor may be longer.
  cases ends <;> rfl

section Dead

-- An id that leads to a slot in which nobody lives.
variable {id : EnvId} (ends : kernel.Ends outcome) (dead : (kernel.envAt id.slot).isLive = false)

include ends dead

/-- Giving the processor away brings nobody back. -/
theorem Ends.env?_eq_none : outcome.2.env? id = none := by
  -- A slot is as live as its status says, and that stays.
  refine Option.eq_none_iff_forall_ne_some.mpr fun env found => ?_
  obtain ⟨here, alive, -⟩ := env?_eq_some.mp found
  have status := ends.status_eq id.slot
  rw [here] at status
  rw [Env.isLive, status, ← Env.isLive, dead] at alive
  simp at alive

/-- The processor is given to somebody who lives. -/
theorem Ends.resumes_eq_false (consistent : kernel.Consistent) : outcome.1.resumes id = false := by
  cases ends with
  | resume slot ready =>
    -- Whoever is resumed has an id that leads to the own slot.
    refine beq_eq_false_iff_ne.mpr fun same => ?_
    have alive := Env.isLive_of_isRunnable ready
    have home : (kernel.envAt slot).id.slot = slot := consistent.envs.slot_id alive
    rw [same] at home
    rw [← home, dead] at alive
    simp at alive
  | idle => rfl

end Dead

/-- A trap that frees its environment and then chooses another one removes it. -/
theorem Settled.removes (settled : kernel.Settled) (user : frame.fromUser = true)
    (owns : kernel.current = some owner)
    (exits : outcome =
      { (kernel.saved owner frame).freeEnv owner with current := none }.reschedule) :
    kernel.Removes owner outcome := by
  obtain ⟨consistent, savedOwns, ready⟩ := settled.saved user owns
  have live := Env.isLive_of_isRunnable ready
  have left : (none : Option Slot) = if (kernel.saved owner frame).current = some owner then none
      else (kernel.saved owner frame).current := by rw [if_pos savedOwns]
  have freed := consistent.freeEnv live left
  have ends : Ends { (kernel.saved owner frame).freeEnv owner with current := none } outcome := by
    rw [exits]
    exact ends_reschedule _
  -- The slot is vacant now, and all others are as they were.
  have home : (kernel.envAt owner).id.slot = owner :=
    settled.envs.slot_id (settled.running owner owns).1
  have dead : ({ (kernel.saved owner frame).freeEnv owner with
      current := none }.envAt (kernel.envAt owner).id.slot).isLive = false := by
    rw [home]
    exact congrArg Env.isLive ((envAt_freeEnv _ owner owner).trans (if_pos rfl))
  have spares (other : Slot) (different : other ≠ owner) : Spares kernel
      { (kernel.saved owner frame).freeEnv owner with current := none } other := by
    have both := (Spares.modifyEnv kernel ({ · with frame }) different).trans
      (consistent.spares_freeEnv live different)
    exact ⟨both.env_eq, both.table_eq⟩
  exact
    { gone := ends.env?_eq_none dead
      passed := ends.resumes_eq_false dead freed
      others := fun other different alive => (spares other different).untouched
        (freed.untouched_ends ends (by rwa [(spares other different).env_eq]))
      console_eq := ends.console_eq }

end Exokernel.Kernel
