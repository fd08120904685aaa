import Exokernel.Abi.EnvId
import Exokernel.Abi.Status
import Exokernel.TrapFrame

/-! Why the kernel stops, and the log of its stops and breakpoints. -/

namespace Exokernel

/-- A condition from which the kernel cannot go on. -/
inductive KernelPanic where
  /-- The kernel itself used memory that it may not use. -/
  | pageFault (va eip : Word)
  /-- The kernel itself raised a trap that has no handler. -/
  | unhandledTrap (vector : Word)
  /-- An environment was to be run that is not runnable. -/
  | notRunnable (env : EnvId) (status : Status)
  /-- A trap came from user mode while no environment owned the processor. -/
  | noCurrentEnv (vector : Word)
  deriving DecidableEq

/-- Text of a panic. -/
def KernelPanic.message : KernelPanic → String
  -- Each text names what the kernel was about to do.
  | pageFault va eip => "kernel page fault at va " ++ hexAddress va ++ ", eip " ++ hexAddress eip
  | unhandledTrap vector => "unhandled trap " ++ toString vector.toNat ++ " in kernel"
  | notRunnable env status => "env_run of " ++ env.render ++ " in state " ++ status.name
  | noCurrentEnv vector =>
    "trap " ++ toString vector.toNat ++ " from user mode with no current environment"

/-- Why the processor stopped. -/
inductive Halt where
  /-- No environment can run. -/
  | idle
  /-- The kernel gave up. -/
  | panic (cause : KernelPanic)
  deriving DecidableEq

/-- Text of a halt. -/
def Halt.message : Halt → String
  | idle => "destroyed all environments - nothing more to do"
  | panic cause => "kernel panic: " ++ cause.message

/-- One entry into the kernel monitor. -/
inductive MonitorEntry where
  /-- A breakpoint or single step, with the environment that owned the processor. -/
  | breakpoint (env : Option EnvId) (frame : TrapFrame)
  /-- The kernel stopped. -/
  | halt (reason : Halt)

/-- What a kernel entry decides that the processor does next. -/
inductive Dispatch where
  /-- Run an environment from a register file. -/
  | resume (env : EnvId) (frame : TrapFrame)
  /-- Stop. -/
  | halt (reason : Halt)
  deriving DecidableEq

end Exokernel
