import Exokernel.Proofs.Kernel.Entries

/-! What one system call does, and how its caller goes on. -/

namespace Exokernel.Kernel

variable {kernel acted : Kernel} {owner slot : Slot} {frame : TrapFrame} {words : Arguments}
  {call : Syscall}

/-- A system call instruction has its registers saved, and then its call carried out. -/
theorem trap_handleCall (user : frame.fromUser = true) (owns : kernel.current = some owner)
    (kind : TrapKind.ofVector frame.vector = .systemCall) (address : Address) :
    kernel.trap frame address = conclude ((kernel.saved owner frame).handleCall frame) := by
  -- Of the kinds of traps this one is a call.
  rw [trap_fromUser user owns]
  unfold handleTrap
  simp only [kind]

/-- A call that has an answer ends with the answer in the result register of its caller. -/
theorem trap_syscall (user : frame.fromUser = true) (owns : kernel.current = some owner)
    (kind : TrapKind.ofVector frame.vector = .systemCall) (address : Address) {value : Word}
    (called : (kernel.saved owner frame).syscall frame.context.regs.eax
      (.ofRegisters frame.context.regs) = (.stay value, acted)) :
    kernel.trap frame address = (acted.withResult value).goOn := by
  -- The call has not taken the processor from its caller.
  rw [trap_handleCall user owns kind]
  simp only [handleCall, called]
  rfl

/-- A trap that asks for a system call carries out that call. -/
theorem trap_request (user : frame.fromUser = true) (owns : kernel.current = some owner)
    (request : frame.Requests call words) (address : Address) {value : Word}
    (performed : (kernel.saved owner frame).perform call words = (.stay value, acted)) :
    kernel.trap frame address = (acted.withResult value).goOn := by
  -- Number and arguments are read from the registers that were saved.
  refine trap_syscall user owns request.kind address ?_
  simp only [syscall, request.number]
  rw [← request.arguments, performed]

/-- A trap that asks for a system call ends as that call does if it gives the processor away. -/
theorem trap_request_leave (user : frame.fromUser = true) (owns : kernel.current = some owner)
    (request : frame.Requests call words) (address : Address) {decision : Dispatch}
    (performed : (kernel.saved owner frame).perform call words = (.leave decision, acted)) :
    kernel.trap frame address = (decision, acted) := by
  -- Number and arguments are read from the registers that were saved.
  rw [trap_handleCall user owns request.kind]
  simp only [handleCall, syscall, request.number]
  rw [← request.arguments, performed]
  rfl

/-- The timer takes the processor away once the registers are saved. -/
theorem trap_timer (user : frame.fromUser = true) (owns : kernel.current = some owner)
    (kind : TrapKind.ofVector frame.vector = .timer) (address : Address) :
    kernel.trap frame address =
      { kernel.saved owner frame with
        clock := (kernel.saved owner frame).clock.tick }.reschedule := by
  -- Of the kinds of traps this one is the timer's.
  rw [trap_fromUser user owns]
  unfold handleTrap
  simp only [kind, conclude]

/-- An interrupt without a cause is over once the registers are saved. -/
theorem trap_spurious (user : frame.fromUser = true) (owns : kernel.current = some owner)
    (kind : TrapKind.ofVector frame.vector = .spurious) (address : Address) :
    kernel.trap frame address = (kernel.saved owner frame).goOn := by
  -- Of the kinds of traps this one has nothing to do.
  rw [trap_fromUser user owns]
  unfold handleTrap
  simp only [kind, conclude]

/-- An answer goes to the result register of the owner of the processor. -/
theorem withResult_of_current (owns : kernel.current = some owner) (value : Word) :
    kernel.withResult value = kernel.modifyEnv owner (·.withResult value) := by
  -- The owner is found, and its record changed.
  simp only [withResult, owns]

/-- The owner's record has the answer. -/
theorem envAt_withResult (owns : kernel.current = some owner) (value : Word) :
    (kernel.withResult value).envAt owner = (kernel.envAt owner).withResult value := by
  -- The changed slot is the one that is looked at.
  rw [withResult_of_current owns, envAt_modifyEnv, if_pos rfl]

/-- A caller that can still run goes on with the answer in its result register. -/
theorem goOn_withResult (owns : kernel.current = some owner)
    (ready : (kernel.envAt owner).isRunnable = true) (value : Word) :
    (kernel.withResult value).goOn =
      (.resume (kernel.envAt owner).id ((kernel.envAt owner).frame.withResult value),
        (kernel.withResult value).dispatched owner) := by
  -- The answer changes a register of the caller and nothing else.
  have caller := envAt_withResult owns value
  have stillOwns : (kernel.withResult value).current = some owner := by
    rw [withResult_of_current owns]
    exact owns
  have stillReady : ((kernel.withResult value).envAt owner).isRunnable = true := by
    rw [caller]
    exact ready
  rw [goOn_of_isRunnable stillOwns stillReady, caller]
  rfl

/-- A receive ends with the choice of another environment, since its caller is blocked. -/
theorem trap_receive (user : frame.fromUser = true) (owns : kernel.current = some owner)
    (request : frame.Requests .receive words) (address : Address) {landing : Option Address}
    (resolved : resolveLanding words.first = .ok landing) : kernel.trap frame address =
      (((kernel.saved owner frame).modifyEnv owner (·.waiting landing)).withResult
        0).reschedule := by
  -- The answer goes to a caller that is blocked, so that somebody else is chosen.
  have savedOwns : (kernel.saved owner frame).current = some owner := owns
  have performed : (kernel.saved owner frame).perform .receive words =
      (.stay 0, (kernel.saved owner frame).modifyEnv owner (·.waiting landing)) := by
    simp only [perform, answerUnit, answer, receive, Kernel.owner, savedOwns, resolved]
    rfl
  rw [trap_request user owns request address performed]
  generalize moved : (kernel.saved owner frame).modifyEnv owner (·.waiting landing) = acted
  have stillOwns : (acted.withResult 0).current = some owner := by
    rw [← moved]
    simp only [withResult, modifyEnv, savedOwns]
  -- The mailbox waits, and its owner with it, so that the answer starts nobody.
  have blocked : ((acted.withResult 0).envAt owner).isRunnable = false := by
    have answered : acted.withResult 0 = acted.modifyEnv owner (·.withResult 0) := by
      rw [← moved]
      simp only [withResult, modifyEnv, savedOwns]
    rw [answered, envAt_modifyEnv, if_pos rfl, ← moved, envAt_modifyEnv, if_pos rfl]
    rfl
  simp only [goOn, stillOwns, blocked, Bool.false_eq_true, if_false]

/-- What all slots hold once a call that the caller survives has ended. -/
theorem envAt_trap_request (user : frame.fromUser = true) (owns : kernel.current = some owner)
    (request : frame.Requests call words) (address : Address) {value : Word}
    (performed : (kernel.saved owner frame).perform call words = (.stay value, acted))
    (stillOwns : acted.current = some owner)
    (stillReady : (acted.envAt owner).isRunnable = true) (slot : Slot) :
    (kernel.trap frame address).2.envAt slot =
      if slot = owner then
        { (acted.envAt owner).withResult value with runs := (acted.envAt owner).runs + 1 }
      else acted.envAt slot := by
  -- The answer is written first, and then the caller is dispatched.
  have answered : acted.withResult value = acted.modifyEnv owner (·.withResult value) := by
    simp only [withResult, stillOwns]
  rw [trap_request user owns request address performed, goOn_withResult stillOwns stillReady,
    answered, envAt_dispatched, envAt_modifyEnv, envAt_modifyEnv, if_pos rfl]
  split <;> rfl

/-- The environment with an id is the one in the slot that the id points to, if it has that id. -/
theorem env?_eq_some {id : EnvId} {env : Env} : kernel.env? id = some env ↔
    kernel.envAt id.slot = env ∧ env.isLive = true ∧ env.id = id := by
  -- An id is looked up in its slot, and compared with the one found there.
  simp only [env?]
  constructor
  · intro found
    split at found
    · rename_i named
      simp only [Option.some.injEq] at found
      simp only [Bool.and_eq_true, beq_iff_eq] at named
      exact found ▸ ⟨rfl, named⟩
    · simp at found
  · rintro ⟨here, live, named⟩
    simp [here, live, named]

/-- Saving registers changes nobody's id and does not decide who exists. -/
theorem find_saved (kernel : Kernel) (owner : Slot) (frame : TrapFrame) (id : EnvId)
    (current : Option Slot) :
    (kernel.saved owner frame).envs.find id current = kernel.envs.find id current := by
  -- The search looks at the status and the id of one slot.
  have same : ((kernel.saved owner frame).envs.get id.slot).isLive =
        (kernel.envs.get id.slot).isLive ∧
      ((kernel.saved owner frame).envs.get id.slot).id = (kernel.envs.get id.slot).id := by
    have slots := kernel.envAt_saved owner frame id.slot
    simp only [envAt] at slots
    rw [slots]
    split
    · rename_i here
      rw [here]
      exact ⟨rfl, rfl⟩
    · exact ⟨rfl, rfl⟩
  simp only [EnvTable.find, same.1, same.2]

end Exokernel.Kernel
