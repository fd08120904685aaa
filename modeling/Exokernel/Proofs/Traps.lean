import Exokernel.Proofs.Kernel.Calls
import Exokernel.Proofs.Machine

/-! How a running environment traps: what registers the kernel finds. -/

namespace Exokernel

/-- Every call is what its number stands for. -/
@[simp] theorem Syscall.decode_number (call : Syscall) : decode call.number = .ok call := by
  -- Numbers differ from call to call.
  cases call <;> decide

/-- With slots one and two taken, the search comes back to slot one after slot two. -/
theorem Kernel.Consistent.reschedule_of_turn {kernel last : Kernel} (consistent : kernel.Consistent)
    (taken : kernel.envs.free = (List.finRange slotCount).drop 3)
    (others : ∀ other, other ≠ slotAt 2 → last.envAt other = kernel.envAt other)
    (turn : last.lastRun = some (slotAt 2))
    (ready : (kernel.envAt (slotAt 1)).isRunnable = true) :
    last.reschedule = (.resume (last.envAt (slotAt 1)).id (last.envAt (slotAt 1)).frame,
      last.dispatched (slotAt 1)) := by
  -- Only slots one and two could be picked, and from slot two on the first is slot one.
  refine reschedule_of_pickNext
    (pickNext_of_first (by rw [others _ (by decide), ready]) (by decide) ?_)
  intro other busy runs
  rw [turn]
  show (1 + 1023 - 2) % 1024 ≤ (other.val + 1023 - 2) % 1024
  have inside : other.val < 1024 := other.isLt
  have positive : other.val ≠ 0 := fun zero => busy (Fin.ext zero)
  -- A slot that is ready has an environment, and only three slots were ever taken.
  have early : other.val < 3 := by
    by_cases same : other = slotAt 2
    · rw [same]
      decide
    · rw [others other same] at runs
      exact consistent.val_lt_of_isLive taken (Env.isLive_of_isRunnable runs)
  omega

namespace Machine

variable {machine : Machine} {id : EnvId} {frame : TrapFrame}

/-- The registers that the kernel finds after a system call instruction. -/
def called (frame : TrapFrame) (call : Syscall) (words : Arguments) : TrapFrame :=
  { callFrame frame call words with vector := TrapVector.systemCall, code := 0 }

/-- The registers that the kernel finds after an interrupt. -/
def interrupted (frame : TrapFrame) (line : Word) : TrapFrame :=
  { frame with vector := TrapVector.irqBase + line, code := 0 }

/-- The registers that a call leaves for the kernel ask for that call. -/
theorem requests_called (frame : TrapFrame) (call : Syscall) (words : Arguments) :
    (called frame call words).Requests call words where
  kind := by
    -- The vector is that of a call.
    show TrapKind.ofVector TrapVector.systemCall = .systemCall
    decide
  number := call.decode_number
  arguments := rfl

/-- Whoever runs does so with the registers in the processor. -/
theorem cpu_of_current (current_eq : machine.current = some id) :
    machine.cpu = .running id (machine.frame?.getD {}) := by
  -- Only a running processor has a current environment.
  unfold current at current_eq
  split at current_eq
  · rename_i state
    rw [Option.some.injEq] at current_eq
    rw [← current_eq, state, frame?, state]
    rfl
  · simp at current_eq

/-- A call of the running environment is a trap of its registers. -/
theorem step_syscall (running : machine.cpu = .running id frame) (call : Syscall)
    (words : Arguments) : machine.step (.syscall call words) =
      apply (machine.kernel.trap (called frame call words) 0) := by
  -- What the caller is told comes after the trap.
  simp only [step, Machine.syscall, running, raise]
  split
  · split <;> rfl
  · rfl

/-- An interrupt of the running environment is a trap of its registers. -/
theorem step_interrupt (running : machine.cpu = .running id frame) (line : Word) :
    machine.step (.interrupt line) =
      apply (machine.kernel.trap (interrupted frame line) 0) := by
  -- Nobody is told anything.
  simp only [step, interrupt, running, raise, interrupted]

end Machine

namespace Kernel

/-- The running environment makes a system call, with registers that are as at its start. -/
def callEvent (call : Syscall) (words : Arguments) : KernelEvent :=
  .trap (Machine.called .initial call words) 0

end Kernel

end Exokernel
