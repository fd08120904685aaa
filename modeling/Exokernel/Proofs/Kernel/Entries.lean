import Exokernel.Proofs.Kernel.Preservation

/-! Every kernel entry ends with an environment that can run, an idle processor, or a panic. -/

namespace Exokernel

/-- A panic that stands for a slip of the kernel itself in giving the processor away. -/
def KernelPanic.isMisdispatch : KernelPanic → Bool
  | notRunnable _ _ | noCurrentEnv _ => true
  | pageFault _ _ | unhandledTrap _ => false

namespace Kernel

variable {kernel : Kernel} {owner : Slot} {frame : TrapFrame} {address : Address}

/-- What a kernel entry has made of the kernel by the time it decides who goes on. -/
structure Leads (kernel last : Kernel) : Prop where
  /-- The parts of the kernel agree. -/
  consistent : last.Consistent
  /-- The kernel knows what it was told at boot. -/
  config_eq : last.config = kernel.config
  /-- No stop was logged that had not been logged before. -/
  halts : ∀ reason, .halt reason ∈ last.monitor → .halt reason ∈ kernel.monitor

/-- No effect of a trap changes what the kernel was told at boot, or logs a stop. -/
theorem log_effect {acted : Kernel} {answer : Option Word}
    (effect : Effect kernel owner frame address acted answer) : acted.config = kernel.config ∧
      ∀ reason, .halt reason ∈ acted.monitor → .halt reason ∈ kernel.monitor := by
  -- Of all effects only the breakpoint writes to the log, and it does not log a stop.
  cases effect with
  | breakpoint => exact ⟨rfl, fun reason logged => by simpa [enterMonitor] using logged⟩
  | fork value request allocated =>
    obtain ⟨rest, memory, -, -, rfl⟩ := allocEnv_ok allocated
    exact ⟨rfl, fun _ => id⟩
  | unforked request refused =>
    rcases allocEnv_error refused with rfl | ⟨-, memory, -, rfl⟩ <;> exact ⟨rfl, fun _ => id⟩
  | _ => exact ⟨rfl, fun _ => id⟩

/-- The answer to a system call changes neither. -/
theorem log_answered (kernel : Kernel) (answer : Option Word) :
    (kernel.answered answer).config = kernel.config ∧
      (kernel.answered answer).monitor = kernel.monitor := by
  -- It changes the registers of the owner, or nothing.
  rcases kernel.answered_cases answer with same | ⟨owner, value, -, same⟩ <;>
    rw [same] <;> exact ⟨rfl, rfl⟩

/-- The end of a kernel entry logs at most that the processor is idle. -/
theorem Ends.log {outcome : Dispatch × Kernel} (ends : kernel.Ends outcome) :
    outcome.2.config = kernel.config ∧
      ∀ cause, .halt (.panic cause) ∈ outcome.2.monitor →
        .halt (.panic cause) ∈ kernel.monitor := by
  -- Stopping for want of work is logged, but it is not a panic.
  cases ends with
  | resume => exact ⟨rfl, fun _ => id⟩
  | idle =>
    exact ⟨rfl, fun cause logged => by simpa [stopped, halt, enterMonitor] using logged⟩

/-- Whoever is resumed is found by its id, can run, and goes on in user mode. -/
theorem Ends.resume_eq (consistent : kernel.Consistent) {outcome : Dispatch × Kernel}
    (ends : kernel.Ends outcome) {id : EnvId} {resumed : TrapFrame}
    (decided : outcome.1 = .resume id resumed) : resumed.fromUser = true ∧
      ∃ env, outcome.2.env? id = some env ∧ env.status = .runnable := by
  -- The id of an environment leads back to its slot, and that slot was dispatched.
  cases ends with
  | resume slot ready =>
    have live := Env.isLive_of_isRunnable ready
    simp only [Dispatch.resume.injEq] at decided
    obtain ⟨rfl, rfl⟩ := decided
    refine ⟨consistent.userMode slot live, (kernel.dispatched slot).envAt slot, ?_, ?_⟩
    · have home : (kernel.envAt slot).id.slot = slot := consistent.envs.slot_id live
      rw [env?, home, envAt_dispatched, if_pos rfl]
      exact if_pos (Bool.and_eq_true_iff.mpr ⟨live, beq_self_eq_true _⟩)
    · rw [envAt_dispatched, if_pos rfl]
      simpa [Env.isRunnable] using ready
  | idle => simp at decided

/-- The normal reason to stop is that no environment can run. -/
theorem Ends.halt_eq {outcome : Dispatch × Kernel} (ends : kernel.Ends outcome) {reason : Halt}
    (decided : outcome.1 = .halt reason) :
    reason = .idle ∧ ∀ slot, (outcome.2.envAt slot).status ≠ .runnable := by
  -- Stopping changes no status, so nobody can run afterwards either.
  cases ends with
  | resume => simp at decided
  | idle exhausted =>
    simp only [Dispatch.halt.injEq] at decided
    refine ⟨decided.symm, fun slot ready => ?_⟩
    have blocked : (kernel.envAt slot).isRunnable = false := exhausted slot
    have same : (kernel.envAt slot).status = .runnable := ready
    simp [Env.isRunnable, same] at blocked

/-- The owner of the processor can still run once its registers are saved. -/
theorem Settled.saved (settled : kernel.Settled) (user : frame.fromUser = true)
    (owns : kernel.current = some owner) : (kernel.saved owner frame).Consistent ∧
      (kernel.saved owner frame).current = some owner ∧
      ((kernel.saved owner frame).envAt owner).isRunnable = true := by
  -- Saving the registers does not change whether the owner can run.
  have ready := settled.ready owner owns
  refine ⟨settled.toConsistent.saved (Env.isLive_of_isRunnable ready) user, owns, ?_⟩
  rw [envAt_saved, if_pos rfl]
  exact ready

/-- A trap of the owner of the processor has one effect, and then the processor is given away. -/
theorem Settled.trap_owned (settled : kernel.Settled) (user : frame.fromUser = true)
    (owns : kernel.current = some owner) (address : Address) :
    ∃ acted answer, Effect (kernel.saved owner frame) owner frame address acted answer ∧
      (acted.answered answer).Ends (kernel.trap frame address) := by
  -- The owner is ready to run, so that it can be answered.
  obtain ⟨acted, answer, effect, ends⟩ := trap_effect user owns (settled.ready owner owns) address
  exact ⟨acted, answer, effect, ends_of_continues (ends.imp_right And.right)⟩

/-- A trap of an environment ends with an environment that can run, or with the processor idle. -/
theorem Settled.trap_user (settled : kernel.Settled) (user : frame.fromUser = true)
    (owns : kernel.current = some owner) (address : Address) :
    ∃ last, kernel.Leads last ∧ last.Ends (kernel.trap frame address) := by
  -- The effect and the answer lead to a consistent kernel, which then gives the processor away.
  obtain ⟨begun, savedOwns, savedReady⟩ := settled.saved user owns
  obtain ⟨acted, answer, effect, ends⟩ := settled.trap_owned user owns address
  obtain ⟨config, halts⟩ := log_effect effect
  obtain ⟨sameConfig, sameLog⟩ := acted.log_answered answer
  have leads : kernel.Leads (acted.answered answer) :=
    { consistent := (begun.effect savedOwns savedReady effect).answered answer
      config_eq := sameConfig.trans config
      halts := fun reason logged => halts reason (sameLog ▸ logged) }
  exact ⟨acted.answered answer, leads, ends⟩

/-- Between two states, at most the clock, the console and the log have moved. -/
structure Rests (kernel last : Kernel) : Prop where
  /-- The kernel knows what it was told at boot. -/
  config_eq : last.config = kernel.config
  /-- The environments are the same. -/
  envs_eq : last.envs = kernel.envs
  /-- Memory is the same. -/
  memory_eq : last.memory = kernel.memory
  /-- The same environment owns the processor. -/
  current_eq : last.current = kernel.current
  /-- The search for the next one starts at the same place. -/
  lastRun_eq : last.lastRun = kernel.lastRun
  /-- No stop was logged. -/
  halts : ∀ reason, .halt reason ∈ last.monitor → .halt reason ∈ kernel.monitor

/-- A trap of the kernel itself changes nothing but the log and the clock, or stops the kernel. -/
theorem handleTrap_kernel (kernel : Kernel) (frame : TrapFrame) (address : Address) :
    ∃ last, kernel.Rests last ∧
      (last.Ends (conclude (kernel.handleTrap none frame address)) ∨
        ∃ cause, cause.isMisdispatch = false ∧
          conclude (kernel.handleTrap none frame address) = last.halt (.panic cause)) := by
  -- Nobody owns the trap, so no environment is touched in any of the cases.
  have unchanged : kernel.Rests kernel := ⟨rfl, rfl, rfl, rfl, rfl, fun _ => id⟩
  unfold handleTrap
  cases TrapKind.ofVector frame.vector with
  | pageFault => exact ⟨kernel, unchanged, .inr ⟨.pageFault _ _, rfl, rfl⟩⟩
  | breakpoint =>
    -- A breakpoint is written to the log of the monitor, and nothing else.
    have logged : kernel.Rests (kernel.enterMonitor (.breakpoint kernel.currentId frame)) :=
      { unchanged with halts := fun reason logged => by simpa [enterMonitor] using logged }
    exact ⟨_, logged, .inl (ends_goOn _)⟩
  | systemCall => exact ⟨kernel, unchanged, .inr ⟨.unhandledTrap _, rfl, rfl⟩⟩
  | timer =>
    have ticked : kernel.Rests { kernel with clock := kernel.clock.tick } :=
      ⟨rfl, rfl, rfl, rfl, rfl, fun _ => id⟩
    refine ⟨_, ticked, .inl ?_⟩
    simp only [conclude, Prod.mk.eta]
    exact ends_reschedule _
  | spurious => exact ⟨kernel, unchanged, .inl (ends_goOn _)⟩
  | unexpected => exact ⟨kernel, unchanged, .inr ⟨.unhandledTrap _, rfl, rfl⟩⟩

/-- What only rests on a consistent kernel is consistent. -/
theorem Consistent.leads_of_rests (consistent : kernel.Consistent) {last : Kernel}
    (rests : kernel.Rests last) : kernel.Leads last where
  consistent := consistent.congr rests.config_eq rests.envs_eq rests.memory_eq rests.current_eq
    rests.lastRun_eq
  config_eq := rests.config_eq
  halts := rests.halts

/-- A trap of the kernel itself works on a consistent kernel to the end. -/
theorem Consistent.handleTrap_kernel (consistent : kernel.Consistent) (frame : TrapFrame)
    (address : Address) : ∃ last, kernel.Leads last ∧
      (last.Ends (conclude (kernel.handleTrap none frame address)) ∨
        ∃ cause, cause.isMisdispatch = false ∧
          conclude (kernel.handleTrap none frame address) = last.halt (.panic cause)) := by
  -- A rest changes nothing that consistency is about.
  obtain ⟨last, rests, ends⟩ := kernel.handleTrap_kernel frame address
  exact ⟨last, consistent.leads_of_rests rests, ends⟩

/-- What follows on a rest is as if it had followed at once. -/
theorem Rests.undisturbed {last next : Kernel} (rests : kernel.Rests last)
    (undisturbed : last.Undisturbed next) : kernel.Undisturbed next where
  envs slot := by
    -- The table and memory are the same after a rest.
    have same : last.envAt slot = kernel.envAt slot := by rw [envAt, rests.envs_eq, envAt]
    rw [← same]
    exact undisturbed.envs slot
  memory := rests.memory_eq ▸ undisturbed.memory

/-- A trap that none of the environments has caused is none of their business. -/
theorem undisturbed_trap (outside : frame.fromUser = true → kernel.current = none)
    (address : Address) : kernel.Undisturbed (kernel.trap frame address).2 := by
  -- A kernel that stops leaves everything as it is, except that no space is in use.
  have stops (last : Kernel) (reason : Halt) : last.Undisturbed (last.halt reason).2 :=
    ⟨fun slot => ⟨_, rfl⟩, none, rfl⟩
  by_cases user : frame.fromUser = true
  · rw [trap_unowned user (outside user)]
    exact stops kernel _
  · rw [trap_fromKernel user]
    obtain ⟨last, rests, ends | ⟨cause, -, panics⟩⟩ := kernel.handleTrap_kernel frame address
    · exact rests.undisturbed ends.undisturbed
    · rw [panics]
      exact rests.undisturbed (stops last _)

/-- What becomes of a trap. -/
inductive TrapCourse (kernel : Kernel) (frame : TrapFrame) (address : Address) : Prop where
  /-- It is a trap of the kernel, or nobody owns the processor. -/
  | outside (unowned : frame.fromUser = true → kernel.current = none)
      (undisturbed : kernel.Undisturbed (kernel.trap frame address).2)
  /-- It is a trap of the owner of the processor. -/
  | owned {owner : Slot} {acted : Kernel} {answer : Option Word} (user : frame.fromUser = true)
      (owns : kernel.current = some owner)
      (effect : Effect (kernel.saved owner frame) owner frame address acted answer)
      (ends : (acted.answered answer).Ends (kernel.trap frame address))

/-- Every trap takes one of the two courses. -/
theorem Settled.trapCourse (settled : kernel.Settled) (frame : TrapFrame) (address : Address) :
    TrapCourse kernel frame address := by
  -- A trap from user mode has an owner, or is none of anybody's business.
  by_cases unowned : frame.fromUser = true → kernel.current = none
  · exact .outside unowned (undisturbed_trap unowned address)
  · obtain ⟨user, current⟩ := Classical.not_imp.mp unowned
    obtain ⟨owner, owns⟩ := Option.ne_none_iff_exists'.mp current
    obtain ⟨acted, answer, effect, ends⟩ := settled.trap_owned user owns address
    exact .owned user owns effect ends

/-- Every trap, wherever it came from, works on a consistent kernel to the end. -/
theorem Settled.trap_ends (settled : kernel.Settled) (frame : TrapFrame) (address : Address) :
    ∃ last, kernel.Leads last ∧ (last.Ends (kernel.trap frame address) ∨
      ∃ cause, kernel.trap frame address = last.halt (.panic cause)) := by
  -- A trap from user mode needs an owner of the processor.
  by_cases user : frame.fromUser = true
  · cases current : kernel.current with
    | none =>
      have unchanged : kernel.Leads kernel := ⟨settled.toConsistent, rfl, fun _ => id⟩
      exact ⟨kernel, unchanged,
        .inr ⟨.noCurrentEnv frame.vector, trap_unowned user current address⟩⟩
    | some owner =>
      obtain ⟨last, leads, ends⟩ := settled.trap_user user current address
      exact ⟨last, leads, .inl ends⟩
  · rw [trap_fromKernel user]
    obtain ⟨last, leads, ends | ⟨cause, -, stops⟩⟩ :=
      settled.toConsistent.handleTrap_kernel frame address
    · exact ⟨last, leads, .inl ends⟩
    · exact ⟨last, leads, .inr ⟨cause, stops⟩⟩

/-- Every trap leaves the kernel settled. -/
theorem Settled.trap (settled : kernel.Settled) (frame : TrapFrame) (address : Address) :
    (kernel.trap frame address).2.Settled := by
  -- Both endings start from a consistent kernel.
  obtain ⟨last, leads, ends | ⟨cause, panics⟩⟩ := settled.trap_ends frame address
  · exact leads.consistent.ends ends
  · rw [panics]
    exact leads.consistent.halt _

/-- No trap changes what the kernel was told at boot. -/
theorem Settled.config_trap (settled : kernel.Settled) (frame : TrapFrame) (address : Address) :
    (kernel.trap frame address).2.config = kernel.config := by
  -- Neither the way to the ending nor the ending itself changes it.
  obtain ⟨last, leads, ends | ⟨cause, panics⟩⟩ := settled.trap_ends frame address
  · exact ends.log.1.trans leads.config_eq
  · rw [panics]
    exact leads.config_eq

end Kernel

end Exokernel
