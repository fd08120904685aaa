import Exokernel.Proofs.Kernel.Entries
import Exokernel.Proofs.Kernel.Loader

/-! Runs of the kernel: from boot through any sequence of entries. -/

namespace Exokernel

/-- Something that happens to a kernel. -/
inductive KernelEvent where
  /-- An environment is created from an image, or cannot be. -/
  | create (image : ProgramImage)
  /-- The processor traps, from an environment or from the kernel itself. -/
  | trap (frame : TrapFrame) (address : Address)
  /-- Scheduling starts, or starts over. -/
  | reschedule
  /-- The next frame allocation is made to fail. -/
  | forceFailure
  /-- The processor writes bytes to user memory. -/
  | write (space : SpaceHandle) (va : Address) (bytes : List UInt8)
  /-- Bytes are typed at the console. -/
  | typed (bytes : List UInt8)

namespace Kernel

/-- The kernel after something happened to it. -/
def step (kernel : Kernel) : KernelEvent → Kernel
  -- Decisions are dropped, as the kernel remembers whom it has dispatched.
  | .create image => (kernel.createEnv image).2
  | .trap frame address => (kernel.trap frame address).2
  | .reschedule => kernel.reschedule.2
  | .forceFailure => kernel.forceFailure
  | .write space va bytes =>
    { kernel with memory := (kernel.memory.copyOut space va bytes).2 }
  | .typed bytes => { kernel with console := kernel.console.pushInput bytes }

/-- The kernel after a run: everything that happened to it since boot, in order. -/
def after (config : Config) (events : List KernelEvent) : Kernel :=
  events.foldl step (boot config)

/-- A kernel that has just booted is settled. -/
theorem settled_boot (config : Config) : (boot config).Settled where
  memory := Memory.sound_ofFrames config.frames
  envs := EnvTable.sound_empty
  owns slot live := by simp [boot, envAt, EnvTable.get_empty, Env.isLive] at live
  owned space found := by simp [boot, Memory.ofFrames, Memory.table?] at found
  distinct slot other space held := by simp [boot, envAt, EnvTable.get_empty] at held
  userMode slot live := by simp [boot, envAt, EnvTable.get_empty, Env.isLive] at live
  landing slot va wanted := by simp [boot, envAt, EnvTable.get_empty] at wanted
  running slot current := by simp [boot] at current
  idle _ := rfl
  ready slot current := by simp [boot] at current

/-- A forced failure leaves the kernel settled. -/
theorem Settled.forceFailure {kernel : Kernel} (settled : kernel.Settled) :
    kernel.forceFailure.Settled :=
  ⟨settled.toConsistent.setMemory settled.memory.forceFailure (fun _ => rfl) rfl, settled.ready⟩

/-- Whatever happens to a settled kernel, it is settled afterwards. -/
theorem Settled.step {kernel : Kernel} (settled : kernel.Settled) (event : KernelEvent) :
    (kernel.step event).Settled := by
  -- One case for each kind of event.
  cases event with
  | create image => exact settled.createEnv image
  | trap frame address => exact settled.trap frame address
  | reschedule => exact settled.toConsistent.ends (ends_reschedule kernel)
  | forceFailure => exact settled.forceFailure
  | write space va bytes => exact ⟨settled.toConsistent.copyOut space va bytes, settled.ready⟩
  | typed bytes => exact ⟨settled.toConsistent.congr rfl rfl rfl rfl rfl, settled.ready⟩

/-- A kernel is settled after every run. -/
theorem settled_after (config : Config) (events : List KernelEvent) :
    (after config events).Settled := by
  -- What holds at boot is carried through one event after the other.
  suffices carried : ∀ kernel : Kernel, kernel.Settled → (events.foldl step kernel).Settled from
    carried _ (settled_boot config)
  induction events with
  | nil => exact fun kernel settled => settled
  | cons event rest ih => exact fun kernel settled => ih (kernel.step event) (settled.step event)

/-- A kernel keeps what it was told at boot, whatever happens to it. -/
theorem Settled.config_step {kernel : Kernel} (settled : kernel.Settled) (event : KernelEvent) :
    (kernel.step event).config = kernel.config := by
  -- One case for each kind of event; only entries of the kernel need an argument.
  cases event with
  | create image => exact (log_createEnv kernel image).1
  | trap frame address => exact settled.config_trap frame address
  | reschedule =>
    simp only [Kernel.step]
    exact (ends_reschedule kernel).log.1
  | _ => rfl

/-- A run never changes what the kernel was told at boot. -/
theorem config_after (config : Config) (events : List KernelEvent) :
    (after config events).config = config := by
  -- The induction is on the events, over every settled kernel they may start from.
  suffices carried : ∀ kernel : Kernel, kernel.Settled →
      (events.foldl Kernel.step kernel).config = kernel.config from
    carried _ (settled_boot config)
  induction events with
  | nil => exact fun kernel _ => rfl
  | cons event rest ih =>
    exact fun kernel settled =>
      (ih (kernel.step event) (settled.step event)).trans (settled.config_step event)

end Kernel

end Exokernel
