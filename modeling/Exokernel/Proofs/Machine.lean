import Exokernel.Machine
import Exokernel.Proofs.Kernel.Entries
import Exokernel.Proofs.Kernel.Loader
import Exokernel.Proofs.Kernel.Runs

/-! Processor and kernel agree on who runs, and the kernel gives the processor to nobody else. -/

namespace Exokernel

/-- Something that happens to a machine. -/
inductive MachineEvent where
  /-- An environment is created from an image, or cannot be. -/
  | create (image : ProgramImage)
  /-- Scheduling starts. -/
  | boot
  /-- The running environment reads memory. -/
  | load (va : Address) (length : Nat)
  /-- The running environment writes memory. -/
  | store (va : Address) (data : List UInt8)
  /-- The running environment executes a system call. -/
  | syscall (call : Syscall) (words : Arguments)
  /-- The running environment changes its registers. -/
  | setContext (context : UserContext)
  /-- The running environment raises an exception. -/
  | exception (vector code : Word)
  /-- An interrupt arrives. -/
  | interrupt (line : Word)
  /-- The kernel itself traps. -/
  | kernelTrap (vector eip : Word) (address : Address)
  /-- The next frame allocation is made to fail. -/
  | forceFailure
  /-- Bytes are typed at the console. -/
  | typed (bytes : List UInt8)

namespace Machine

/-- The machine after bytes were typed. -/
def typed (machine : Machine) (bytes : List UInt8) : Machine :=
  -- No environment is told; the bytes wait until one reads them.
  let console := machine.kernel.console.pushInput bytes
  { machine with kernel := { machine.kernel with console } }

/-- The machine after something happened to it. -/
def step (machine : Machine) : MachineEvent → Machine
  -- Results are dropped: what has failed is an event like any other.
  | .create image => { machine with kernel := (machine.kernel.createEnv image).2 }
  | .boot => machine.boot
  | .load va length => (machine.load va length).2
  | .store va data => (machine.store va data).2
  | .syscall call words => (machine.syscall call words).2
  | .setContext context => machine.setContext context
  | .exception vector code => machine.exception vector code
  | .interrupt line => machine.interrupt line
  | .kernelTrap vector eip address => machine.kernelTrap vector eip address
  | .forceFailure => { machine with kernel := machine.kernel.forceFailure }
  | .typed bytes => machine.typed bytes

/-- The machine after a run: everything that happened to it since power-on, in order. -/
def after (config : Config) (events : List MachineEvent) : Machine :=
  events.foldl step { kernel := .boot config }

/-- Processor and kernel fit together. -/
structure Coupled (machine : Machine) : Prop where
  /-- The kernel is settled. -/
  settled : machine.kernel.Settled
  /-- The processor runs the environment that the kernel gave it to. -/
  current_eq : machine.current = machine.kernel.currentId
  /-- The running environment is in user mode. -/
  userMode : ∀ frame, machine.frame? = some frame → frame.fromUser = true
  /-- The processor did not stop because the kernel lost track of who runs. -/
  halted : ∀ cause, machine.halted? = some (.panic cause) → cause.isMisdispatch = false
  /-- The kernel never has. -/
  logged : ∀ cause, .halt (.panic cause) ∈ machine.kernel.monitor → cause.isMisdispatch = false

variable {machine : Machine} {kernel last : Kernel} {outcome : Dispatch × Kernel}

/-- A kernel entry that ends in the normal way couples processor and kernel. -/
theorem coupled_apply_ends (leads : kernel.Leads last) (ends : last.Ends outcome)
    (logged : ∀ cause, .halt (.panic cause) ∈ kernel.monitor → cause.isMisdispatch = false) :
    (apply outcome).Coupled := by
  -- The processor takes over the decision, whichever of the two endings it is.
  have settled := leads.consistent.ends ends
  have sane (cause : KernelPanic) (now : .halt (.panic cause) ∈ outcome.2.monitor) :=
    logged cause (leads.halts _ (ends.log.2 cause now))
  cases ends with
  | resume slot ready =>
    refine
      { settled
        current_eq := ?_
        userMode := fun frame running => ?_
        halted := fun cause stopped => by simp [apply, halted?] at stopped
        logged := sane }
    · show some (last.envAt slot).id = some ((last.dispatched slot).envAt slot).id
      rw [Kernel.envAt_dispatched, if_pos rfl]
    · simp only [apply, frame?, Option.some.injEq] at running
      rw [← running]
      exact leads.consistent.userMode slot (Env.isLive_of_isRunnable ready)
  | idle =>
    exact
      { settled
        current_eq := rfl
        userMode := fun frame running => by simp [apply, frame?] at running
        halted := fun cause stopped => by simp [apply, halted?] at stopped
        logged := sane }

/-- A panic of the kernel's own doing couples processor and kernel too. -/
theorem coupled_apply_panic (leads : kernel.Leads last) {cause : KernelPanic}
    (sane : cause.isMisdispatch = false)
    (logged : ∀ cause, .halt (.panic cause) ∈ kernel.monitor → cause.isMisdispatch = false) :
    (apply (last.halt (.panic cause))).Coupled where
  settled := leads.consistent.halt _
  current_eq := rfl
  userMode frame running := by simp [apply, Kernel.halt, frame?] at running
  halted other stopped := by
    simp only [apply, Kernel.halt, halted?, Option.some.injEq, Halt.panic.injEq] at stopped
    exact stopped ▸ sane
  logged other now := by
    -- The new entry of the log is this panic, and older ones were sane before.
    have entries : .halt (.panic other) ∈ last.monitor.push (.halt (.panic cause)) := now
    simp only [Array.mem_push, MonitorEntry.halt.injEq, Halt.panic.injEq] at entries
    rcases entries with before | same
    · exact logged other (leads.halts _ before)
    · exact same ▸ sane

/-- The registers of a trap of the kernel itself show that it came from the kernel. -/
theorem trap_kernel (kernel : Kernel) (vector eip : Word) (address : Address) :
    kernel.trap (.kernel vector eip) address =
      Kernel.conclude (kernel.handleTrap none (.kernel vector eip) address) := by
  -- The code segment of the kernel has privilege level zero.
  have mode : (TrapFrame.kernel vector eip).fromUser = false := by
    simp only [TrapFrame.fromUser, TrapFrame.kernel]
    decide
  simp [Kernel.trap, mode]

namespace Coupled

/-- While an environment runs, the kernel knows its slot. -/
theorem owner (coupled : machine.Coupled) {env : EnvId} {frame : TrapFrame}
    (running : machine.cpu = .running env frame) :
    ∃ slot, machine.kernel.current = some slot ∧ (machine.kernel.envAt slot).id = env := by
  -- Processor and kernel name the same environment, and the kernel names it by its slot.
  have same := coupled.current_eq
  simp only [current, running, Kernel.currentId] at same
  obtain ⟨slot, owns, named⟩ := Option.map_eq_some_iff.mp same.symm
  exact ⟨slot, owns, named⟩

/-- A trap from user mode keeps processor and kernel coupled. -/
theorem raise (coupled : machine.Coupled) (vector code : Word) (address : Address) :
    (machine.raise vector code address).Coupled := by
  -- The running environment's own mode says that the trap comes from user mode.
  unfold Machine.raise
  split
  · rename_i env frame running
    obtain ⟨slot, owns, -⟩ := coupled.owner running
    have user : ({ frame with vector, code } : TrapFrame).fromUser = true :=
      coupled.userMode frame (by simp [frame?, running])
    obtain ⟨last, leads, ends⟩ := coupled.settled.trap_user user owns address
    exact coupled_apply_ends leads ends coupled.logged
  · exact coupled

/-- A trap of the kernel itself keeps processor and kernel coupled. -/
theorem kernelTrap (coupled : machine.Coupled) (vector eip : Word) (address : Address) :
    (machine.kernelTrap vector eip address).Coupled := by
  -- The kernel may stop over a trap of its own, but not for a misdispatch.
  unfold Machine.kernelTrap
  rw [trap_kernel]
  obtain ⟨last, leads, ends | ⟨cause, sane, panics⟩⟩ :=
    coupled.settled.toConsistent.handleTrap_kernel (.kernel vector eip) address
  · exact coupled_apply_ends leads ends coupled.logged
  · rw [panics]
    exact coupled_apply_panic leads sane coupled.logged

/-- The kernel may change as long as the owner of the processor and the log stay. -/
theorem setKernel (coupled : machine.Coupled) {next : Kernel} (settled : next.Settled)
    (currentId : next.currentId = machine.kernel.currentId)
    (monitor : next.monitor = machine.kernel.monitor) :
    { machine with kernel := next }.Coupled where
  settled := settled
  current_eq := coupled.current_eq.trans currentId.symm
  userMode := coupled.userMode
  halted := coupled.halted
  logged cause now := coupled.logged cause (monitor ▸ now)

/-- Resolving a range traps at most once. -/
theorem resolveRange (coupled : machine.Coupled) (write : Bool) (va : Address) (length : Nat) :
    (machine.resolveRange write va length).2.Coupled := by
  -- Only a page that is missing or protected traps.
  unfold Machine.resolveRange
  split
  · exact coupled
  · split
    · exact coupled.raise _ _ _
    · split <;> exact coupled

/-- Memory that the processor writes does not concern the coupling. -/
theorem store (coupled : machine.Coupled) (va : Address) (data : List UInt8) :
    (machine.store va data).2.Coupled := by
  -- The bytes are written after the range has been resolved.
  have resolved := coupled.resolveRange true va data.length
  unfold Machine.store
  split
  · rename_i next refused
    rwa [refused] at resolved
  · rename_i space next granted
    rw [granted] at resolved
    exact resolved.setKernel
      ⟨resolved.settled.toConsistent.copyOut space va data, resolved.settled.ready⟩ rfl rfl

/-- Reading memory changes nothing, or traps once. -/
theorem load (coupled : machine.Coupled) (va : Address) (length : Nat) :
    (machine.load va length).2.Coupled := by
  -- The bytes are read after the range has been resolved.
  have resolved := coupled.resolveRange false va length
  unfold Machine.load
  split
  · rename_i next refused
    rwa [refused] at resolved
  · rename_i space next granted
    rw [granted] at resolved
    split <;> exact resolved

/-- The running environment may change its registers but not its mode. -/
theorem setFrame (coupled : machine.Coupled) {env : EnvId} {frame changed : TrapFrame}
    (running : machine.cpu = .running env frame) (mode : changed.cs = frame.cs) :
    { machine with cpu := .running env changed }.Coupled where
  settled := coupled.settled
  current_eq := by
    have same := coupled.current_eq
    simpa [current, running] using same
  userMode other now := by
    -- The mode is in the code segment, which is the same.
    have user := coupled.userMode frame (by simp [frame?, running])
    simp only [frame?, Option.some.injEq] at now
    rw [← now, TrapFrame.fromUser, mode]
    exact user
  halted cause stopped := by simp [halted?] at stopped
  logged := coupled.logged

/-- A system call traps once, with the registers set for it. -/
theorem syscall (coupled : machine.Coupled) (call : Syscall) (words : Arguments) :
    (machine.syscall call words).2.Coupled := by
  -- Setting the registers up keeps the mode, and then the trap is like any other.
  unfold Machine.syscall
  split
  · rename_i env frame running
    have prepared : { machine with cpu := .running env (callFrame frame call words) }.Coupled :=
      coupled.setFrame running rfl
    have trapped := prepared.raise TrapVector.systemCall 0 0
    dsimp only
    split
    · split <;> exact trapped
    · exact trapped
  · exact coupled

/-- Typing does not concern the coupling of processor and kernel. -/
theorem typed (coupled : machine.Coupled) (bytes : List UInt8) : (machine.typed bytes).Coupled :=
  coupled.setKernel
    ⟨coupled.settled.toConsistent.congr rfl rfl rfl rfl rfl, coupled.settled.ready⟩ rfl rfl

/-- Whatever happens to a machine, processor and kernel stay coupled. -/
theorem step (coupled : machine.Coupled) (event : MachineEvent) :
    (machine.step event).Coupled := by
  -- One case for each kind of event; those that enter the kernel end like a kernel entry.
  cases event with
  | create image =>
    obtain ⟨kept, same⟩ := coupled.settled.toConsistent.createEnv_outside image
    -- An id can only change with its slot, and the slot of the owner is in use.
    have currentId : (machine.kernel.createEnv image).2.currentId = machine.kernel.currentId := by
      rw [Kernel.currentId, Kernel.currentId, kept]
      refine Option.map_congr fun slot owns => ?_
      rw [same slot (coupled.settled.running slot owns).1]
    exact coupled.setKernel (coupled.settled.createEnv image) currentId
      (Kernel.log_createEnv machine.kernel image).2
  | boot =>
    -- Booting chooses whom to run on the kernel as it is.
    have unchanged : machine.kernel.Leads machine.kernel :=
      ⟨coupled.settled.toConsistent, rfl, fun _ => id⟩
    have ends := machine.kernel.ends_reschedule
    simp only [Machine.step, Machine.boot]
    exact coupled_apply_ends unchanged ends coupled.logged
  | load va length => exact coupled.load va length
  | store va data => exact coupled.store va data
  | syscall call words => exact coupled.syscall call words
  | setContext context =>
    simp only [Machine.step, Machine.setContext]
    split
    · rename_i env frame running
      exact coupled.setFrame running rfl
    · exact coupled
  | exception vector code => exact coupled.raise vector code 0
  | interrupt line => exact coupled.raise (TrapVector.irqBase + line) 0 0
  | kernelTrap vector eip address => exact coupled.kernelTrap vector eip address
  | forceFailure => exact coupled.setKernel coupled.settled.forceFailure rfl rfl
  | typed bytes => exact coupled.typed bytes

/-- At power-on nobody runs, as far as the processor and the kernel know. -/
theorem powerOn (config : Config) : Coupled { kernel := .boot config } where
  settled := Kernel.settled_boot config
  current_eq := rfl
  userMode frame running := by simp [frame?] at running
  halted cause stopped := by simp [halted?] at stopped
  logged cause now := by simp [Kernel.boot] at now

end Coupled

/-- However many things happen to a machine, processor and kernel stay coupled. -/
theorem Coupled.foldl (coupled : machine.Coupled) (events : List MachineEvent) :
    (events.foldl Machine.step machine).Coupled := by
  -- Induct on the events, each of which keeps processor and kernel coupled.
  induction events generalizing machine with
  | nil => exact coupled
  | cons event rest ih => exact ih (coupled.step event)

/-- Processor and kernel are coupled after every run. -/
theorem coupled_after (config : Config) (events : List MachineEvent) :
    (after config events).Coupled :=
  (Coupled.powerOn config).foldl events

/-- The ways in which a machine can enter its kernel. -/
inductive Enters (machine : Machine) : Dispatch × Kernel → Prop where
  /-- Scheduling starts. -/
  | boot : Enters machine machine.kernel.reschedule
  /-- The running environment traps, with whatever registers. -/
  | user {env : EnvId} {live : TrapFrame} (running : machine.cpu = .running env live)
      (frame : TrapFrame) (mode : frame.fromUser = true) (address : Address) :
      Enters machine (machine.kernel.trap frame address)
  /-- The kernel itself traps. -/
  | kernel (vector eip : Word) (address : Address) :
      Enters machine (machine.kernel.trap (.kernel vector eip) address)

/-- The processor is given to environments that can run, and to nobody else. -/
structure DispatchIntegrity (machine : Machine) : Prop where
  /-- The processor runs exactly the environment that the kernel takes for the current one. -/
  running_iff : ∀ env,
    (∃ frame, machine.cpu = .running env frame) ↔ machine.kernel.currentId = some env
  /-- Whoever is resumed exists under its id, can run, and goes on in user mode. -/
  resumed : ∀ outcome, machine.Enters outcome → ∀ id frame, outcome.1 = .resume id frame →
    frame.fromUser = true ∧ ∃ env, outcome.2.env? id = some env ∧ env.status = .runnable
  /-- No kernel entry stops because an environment cannot run or because nobody runs. -/
  sane : ∀ outcome, machine.Enters outcome → ∀ cause, outcome.1 = .halt (.panic cause) →
    cause.isMisdispatch = false
  /-- The processor has not been stopped for such a reason. -/
  halted : ∀ cause, machine.halted? = some (.panic cause) → cause.isMisdispatch = false
  /-- No kernel entry since power-on has stopped for one. -/
  logged : ∀ cause, .halt (.panic cause) ∈ machine.kernel.monitor → cause.isMisdispatch = false
  /-- A trap from user mode stops the processor only when no environment can run any more. -/
  user_halt : ∀ env live frame address, machine.cpu = .running env live →
    frame.fromUser = true → ∀ reason, (machine.kernel.trap frame address).1 = .halt reason →
      reason = .idle ∧
        ∀ slot, ((machine.kernel.trap frame address).2.envAt slot).status ≠ .runnable

/-- A kernel entry ends in the normal way, or in a panic over what the kernel itself did. -/
theorem Coupled.entry (coupled : machine.Coupled) (enters : machine.Enters outcome) :
    ∃ last, machine.kernel.Leads last ∧ (last.Ends outcome ∨
      ∃ cause, cause.isMisdispatch = false ∧ outcome = last.halt (.panic cause)) := by
  -- Scheduling and user traps end in the normal way; a trap of the kernel may not.
  cases enters with
  | boot =>
    exact ⟨machine.kernel, ⟨coupled.settled.toConsistent, rfl, fun _ => id⟩,
      .inl machine.kernel.ends_reschedule⟩
  | user running frame mode address =>
    obtain ⟨slot, owns, -⟩ := coupled.owner running
    obtain ⟨last, leads, ends⟩ := coupled.settled.trap_user mode owns address
    exact ⟨last, leads, .inl ends⟩
  | kernel vector eip address =>
    rw [trap_kernel]
    exact coupled.settled.toConsistent.handleTrap_kernel (.kernel vector eip) address

/-- A coupled machine gives the processor to environments that can run. -/
theorem Coupled.dispatchIntegrity (coupled : machine.Coupled) : machine.DispatchIntegrity where
  running_iff env := by
    rw [← coupled.current_eq]
    unfold current
    split
    · rename_i running _ state
      simp [state, eq_comm]
    · rename_i idle
      exact ⟨fun ⟨frame, running⟩ => absurd running (idle env frame), by simp⟩
  resumed outcome enters id frame decided := by
    obtain ⟨last, leads, ends | ⟨cause, -, rfl⟩⟩ := coupled.entry enters
    · exact ends.resume_eq leads.consistent decided
    · simp [Kernel.halt] at decided
  sane outcome enters cause decided := by
    obtain ⟨last, -, ends | ⟨other, sane, rfl⟩⟩ := coupled.entry enters
    · -- A normal ending stops for want of work, and is no panic.
      have idle := (ends.halt_eq decided).1
      simp at idle
    · simp only [Kernel.halt, Dispatch.halt.injEq, Halt.panic.injEq] at decided
      exact decided ▸ sane
  halted := coupled.halted
  logged := coupled.logged
  user_halt env live frame address running mode reason decided := by
    obtain ⟨slot, owns, -⟩ := coupled.owner running
    -- A trap of user code never panics, so that it stops for want of work only.
    obtain ⟨last, -, ends⟩ := coupled.settled.trap_user mode owns address
    exact ends.halt_eq decided

/-- In every state of a machine the processor is given to environments that can run. -/
theorem dispatchIntegrity_after (config : Config) (events : List MachineEvent) :
    (after config events).DispatchIntegrity :=
  (coupled_after config events).dispatchIntegrity

end Machine

end Exokernel
