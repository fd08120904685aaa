import Exokernel.Proofs.Kernel.Mail
import Exokernel.Proofs.Traps

/-! A system call that answers with an error has changed nothing, however far it came. -/

namespace Exokernel

namespace SysError

/-- An error is a negative word. -/
theorem le_toWord (error : SysError) : 2147483648 ≤ error.toWord.toNat := by
  -- All errors are small numbers below zero.
  cases error <;> decide

/-- The word of an error is not the word of a result that is not negative. -/
theorem toWord_ne {word : Word} (positive : word.toNat < 2147483648) (error : SysError) :
    word ≠ error.toWord := by
  -- An error has the uppermost bit, and the word has not.
  rintro rfl
  exact absurd error.le_toWord (by omega)

end SysError

namespace Kernel

variable {kernel acted next : Kernel} {owner slot : Slot} {frame : TrapFrame} {words : Arguments}
  {error : SysError} {call : Syscall}

/-- At most a forced failure was used up. -/
def Unchanged (kernel acted : Kernel) : Prop :=
  ∃ memory, acted = { kernel with memory } ∧ kernel.memory.Intact memory

namespace Unchanged

/-- What changes nothing at all. -/
theorem refl (kernel : Kernel) : kernel.Unchanged kernel :=
  ⟨kernel.memory, rfl, .refl _⟩

/-- A call that answers with an error has failed, unless its results look like errors. -/
theorem of_answer {outcome : Except SysError Word × Kernel}
    (answered : answer outcome = (.stay error.toWord, acted))
    (results : ∀ value, outcome.1 = .ok value → value.toNat < 2147483648)
    (failed : ∀ cause, outcome.1 = .error cause → kernel.Unchanged outcome.2) :
    kernel.Unchanged acted := by
  -- Errors are large words, so that a result is not taken for one.
  obtain ⟨result, made⟩ := outcome
  simp only [answer, Prod.mk.injEq, Control.stay.injEq] at answered
  obtain ⟨word, rfl⟩ := answered
  cases result with
  | ok value => exact absurd word (SysError.toWord_ne (results value rfl) error)
  | error cause => exact failed cause rfl

/-- A call without results answers with an error only if it has failed. -/
theorem of_answerUnit {outcome : Except SysError Unit × Kernel}
    (answered : answerUnit outcome = (.stay error.toWord, acted))
    (failed : ∀ cause, outcome.1 = .error cause → kernel.Unchanged outcome.2) :
    kernel.Unchanged acted := by
  -- Without a result the answer is zero, which is no error.
  obtain ⟨result, made⟩ := outcome
  refine of_answer answered (fun value done => ?_) fun cause refused => ?_
  · cases result with
    | ok =>
      simp only [Except.map, Except.ok.injEq] at done
      rw [← done]
      decide
    | error cause => simp [Except.map] at done
  · cases result with
    | ok => simp [Except.map] at refused
    | error cause => exact failed cause rfl

end Unchanged

/-- A child that cannot be created has cost nothing. -/
theorem unchanged_fork (failed : kernel.fork.1 = .error error) :
    kernel.Unchanged kernel.fork.2 := by
  -- Taking a slot is refused before anything changes, or because there is no new space.
  unfold fork at failed ⊢
  split
  · exact .refl kernel
  · rename_i slot found
    rw [found] at failed
    dsimp only at failed ⊢
    cases allocated : kernel.allocEnv (kernel.envAt slot).id with
    | mk result made =>
      rw [allocated] at failed
      cases result with
      | ok created => simp at failed
      | error cause =>
        rcases allocEnv_error allocated with rfl | ⟨cause, memory, refused, rfl⟩
        · exact .refl made
        · exact ⟨memory, rfl, .createSpace refused⟩

/-- A byte of console input is not negative. -/
theorem readConsole_result_lt (kernel : Kernel) : kernel.readConsole.1.toNat < 2147483648 := by
  simp only [readConsole]
  -- No byte reads as zero, and a byte is below 256.
  cases kernel.console.read.1 with
  | none => decide
  | some byte =>
    have small := byte.toNat_lt
    simp only [Option.map_some, Option.getD_some, UInt8.toNat_toUInt32]
    omega

/-- The id of a child is not negative. -/
theorem fork_result_lt {value : Word} (done : kernel.fork.1 = .ok value) :
    value.toNat < 2147483648 := by
  -- The result is an id, and ids are positive as signed words.
  unfold fork at done
  split at done
  · simp at done
  · rename_i slot found
    dsimp only at done
    cases allocated : kernel.allocEnv (kernel.envAt slot).id with
    | mk result made =>
      rw [allocated] at done
      cases result with
      | error cause => simp at done
      | ok created =>
        obtain ⟨child, space⟩ := created
        simp only [envAt_modifyEnv, if_pos, Except.ok.injEq] at done
        rw [← done, envAt_allocEnv allocated, if_pos rfl]
        exact (EnvId.next_bounds _ child).2

/-- A status that cannot be set leaves the kernel unchanged. -/
theorem unchanged_setStatus {target : EnvId} {word : Word}
    (failed : (kernel.setStatus target word).1 = .error error) :
    kernel.Unchanged (kernel.setStatus target word).2 := by
  -- Neither a bad status nor a bad target gets as far as a change.
  unfold setStatus at failed ⊢
  split
  · rename_i settable found
    simp [settable, found] at failed
  · exact .refl kernel
  · exact .refl kernel

/-- An entry point that cannot be set leaves the kernel unchanged. -/
theorem unchanged_setFaultEntry {target : EnvId} {entry : Address}
    (failed : (kernel.setFaultEntry target entry).1 = .error error) :
    kernel.Unchanged (kernel.setFaultEntry target entry).2 := by
  -- Once the target is found, the call succeeds.
  unfold setFaultEntry at failed ⊢
  split
  · exact .refl kernel
  · rename_i found
    simp [found] at failed

/-- A receive that fails leaves the kernel unchanged. -/
theorem unchanged_receive {va : Address} (failed : (kernel.receive va).1 = .error error) :
    kernel.Unchanged (kernel.receive va).2 := by
  -- The caller is blocked only after its arguments are accepted.
  unfold receive at failed ⊢
  split
  · rename_i owns resolved
    simp [owns, resolved] at failed
  · exact .refl kernel
  · exact .refl kernel

/-- A fresh page that cannot be mapped has cost nothing. -/
theorem Consistent.unchanged_allocPage (consistent : kernel.Consistent) {request : AllocRequest}
    (failed : (kernel.allocPage request).1 = .error error) :
    kernel.Unchanged (kernel.allocPage request).2 := by
  -- With accepted arguments it is the mapping that has failed.
  unfold allocPage at failed ⊢
  split
  · exact .refl kernel
  · rename_i space page flags resolved
    simp only [resolved] at failed
    exact ⟨_, rfl, .mapFresh consistent.memory (Prod.ext failed rfl)⟩

/-- A mapping that fails leaves the kernel unchanged. -/
theorem unchanged_mapPage {request : MapRequest}
    (failed : (kernel.mapPage request).1 = .error error) :
    kernel.Unchanged (kernel.mapPage request).2 := by
  unfold mapPage at failed ⊢
  -- A request that is refused does nothing, and one that fails has only tried for a frame.
  split
  · exact .refl kernel
  · rename_i planned resolved
    simp only [resolved] at failed
    obtain ⟨cause, refused⟩ := planned.apply_error (Prod.ext failed rfl)
    exact ⟨_, rfl, .map refused⟩

/-- A removal that fails leaves the kernel unchanged. -/
theorem unchanged_unmapPage {request : UnmapRequest}
    (failed : (kernel.unmapPage request).1 = .error error) :
    kernel.Unchanged (kernel.unmapPage request).2 := by
  unfold unmapPage at failed ⊢
  split
  · exact .refl kernel
  · rename_i space page resolved
    simp only [resolved] at failed
    -- A page of a space that exists can always be unmapped.
    cases found : kernel.memory.table? space with
    | none =>
      simp only [Memory.unmap, found]
      exact .refl kernel
    | some table => simp [Memory.unmap, found, Except.mapError] at failed

/-- A message that is not sent leaves the kernel unchanged. -/
theorem Consistent.unchanged_trySend (consistent : kernel.Consistent)
    (owns : kernel.current = some owner) {request : SendRequest}
    (failed : (kernel.trySend request).1 = .error error) :
    kernel.Unchanged (kernel.trySend request).2 := by
  -- No more than an attempt at the page can have happened.
  obtain ⟨memory, tried, intact⟩ := consistent.trySend_error owns failed
  rw [tried]
  exact ⟨memory, rfl, intact⟩

/-- A message that is sent is answered with a number that is not negative. -/
theorem trySend_result_lt {request : SendRequest} {value : Word}
    (done : (kernel.trySend request).1 = .ok value) : value.toNat < 2147483648 := by
  -- The answer says whether a page went with it: it is zero or one.
  obtain ⟨delivery, memory, -, -, rfl, -⟩ := trySend_ok done
  split <;> decide

/-- Whoever is destroyed gets no answer, so an answer after it is the one that was set. -/
theorem stay_of_answerDestroy {outcome : Control Unit × Kernel} {value word : Word}
    (answered : answerDestroy outcome value = (.stay word, acted)) : word = value := by
  -- Control that leaves the caller carries no word at all.
  obtain ⟨control, made⟩ := outcome
  cases control with
  | leave decision => simp [answerDestroy] at answered
  | stay =>
    simp only [answerDestroy, Prod.mk.injEq, Control.stay.injEq] at answered
    exact answered.1.symm

/-- Output that is answered with an error leaves the kernel unchanged. -/
theorem unchanged_writeConsole (owns : kernel.current = some owner) {va length : Word}
    (answered : kernel.writeConsole va length = (.stay error.toWord, acted)) :
    kernel.Unchanged acted := by
  unfold writeConsole at answered
  split at answered
  · rw [Prod.mk.injEq] at answered
    rw [← answered.2]
    exact .refl kernel
  · rename_i slot space found
    obtain ⟨rfl, -⟩ := callerSpace_ok owns found
    split at answered
    · -- A caller that names memory it may not read is not there to be answered.
      rw [destroyEnv_owner owns] at answered
      simp [answerDestroy] at answered
    · split at answered
      · rw [Prod.mk.injEq] at answered
        rw [← answered.2]
        exact .refl kernel
      · simp only [Prod.mk.injEq, Control.stay.injEq] at answered
        exact absurd answered.1 (error.toWord_ne (by decide))

/-- A removal that is answered with an error leaves the kernel unchanged. -/
theorem unchanged_destroyCall {target : EnvId}
    (answered : kernel.destroyCall target = (.stay error.toWord, acted)) :
    kernel.Unchanged acted := by
  -- If the target is found, the answer is zero.
  unfold destroyCall at answered
  split at answered
  · rw [Prod.mk.injEq] at answered
    rw [← answered.2]
    exact .refl kernel
  · exact absurd (stay_of_answerDestroy answered).symm (error.toWord_ne (by decide))

/-- A system call that answers with an error leaves the kernel as it found it. -/
theorem Consistent.unchanged_syscall (consistent : kernel.Consistent)
    (owns : kernel.current = some owner) {number : Word}
    (answered : kernel.syscall number words = (.stay error.toWord, acted)) :
    kernel.Unchanged acted := by
  unfold syscall at answered
  split at answered
  · rename_i call decoded
    cases call with
    | writeConsole => exact unchanged_writeConsole owns answered
    | readConsole =>
      simp only [perform, Prod.mk.injEq, Control.stay.injEq] at answered
      exact absurd answered.1 (error.toWord_ne kernel.readConsole_result_lt)
    | currentEnv =>
      simp only [perform, answer, Prod.mk.injEq] at answered
      rw [← answered.2]
      exact .refl kernel
    | destroyEnv => exact unchanged_destroyCall answered
    | yield => simp [perform] at answered
    | fork => exact .of_answer answered (fun _ => fork_result_lt) fun _ => unchanged_fork
    | setStatus => exact .of_answerUnit answered fun _ => unchanged_setStatus
    | allocPage => exact .of_answerUnit answered fun _ => consistent.unchanged_allocPage
    | mapPage => exact .of_answerUnit answered fun _ => unchanged_mapPage
    | unmapPage => exact .of_answerUnit answered fun _ => unchanged_unmapPage
    | setFaultEntry => exact .of_answerUnit answered fun _ => unchanged_setFaultEntry
    | receive => exact .of_answerUnit answered fun _ => unchanged_receive
    | trySend =>
      exact .of_answer answered (fun _ => trySend_result_lt) fun _ =>
        consistent.unchanged_trySend owns
    | time =>
      -- The time may look like an error, but telling it changes nothing either.
      simp only [perform, Prod.mk.injEq] at answered
      rw [← answered.2]
      exact .refl kernel
  · rw [Prod.mk.injEq] at answered
    rw [← answered.2]
    exact .refl kernel

/-- A running environment makes a system call that the kernel answers with an error. -/
structure Refuses (kernel : Kernel) (owner : Slot) (frame : TrapFrame) (error : SysError) :
    Prop where
  /-- The trap comes from user mode. -/
  user : frame.fromUser = true
  /-- The environment in the slot is the one that runs. -/
  owns : kernel.current = some owner
  /-- The trap is a system call. -/
  kind : TrapKind.ofVector frame.vector = .systemCall
  /-- The call that the registers ask for is answered with the error. -/
  answered : ((kernel.saved owner frame).syscall frame.context.regs.eax
    (.ofRegisters frame.context.regs)).1 = .stay error.toWord

/-- The kernel is as it was, except that the caller has its answer. -/
structure Refused (kernel : Kernel) (owner : Slot) (frame : TrapFrame) (error : SysError)
    (outcome : Dispatch × Kernel) : Prop where
  /-- The caller goes on with the error in its result register. -/
  resumes : outcome.1 = .resume (kernel.envAt owner).id (frame.withResult error.toWord)
  /-- Only the caller's registers and run counter have changed. -/
  envs : ∀ slot, outcome.2.envAt slot =
    if slot = owner then
      { kernel.envAt owner with
        frame := frame.withResult error.toWord, runs := (kernel.envAt owner).runs + 1 }
    else kernel.envAt slot
  /-- The same slots are free, in the same order. -/
  free_eq : outcome.2.envs.free = kernel.envs.free
  /-- All mappings are the same, and so are the frames in use, their bytes and the free list. -/
  memory : kernel.memory.Intact outcome.2.memory
  /-- The caller still owns the processor. -/
  current_eq : outcome.2.current = kernel.current
  /-- The search for the next environment starts where it would have started. -/
  lastRun_eq : outcome.2.lastRun = kernel.lastRun
  /-- Nothing was read from the console or written to it. -/
  console_eq : outcome.2.console = kernel.console
  /-- The monitor has no new entry. -/
  monitor_eq : outcome.2.monitor = kernel.monitor
  /-- No time has passed. -/
  clock_eq : outcome.2.clock = kernel.clock
  /-- The configuration never changes. -/
  config_eq : outcome.2.config = kernel.config

/-- Whatever call fails, and at whatever point, the kernel is as it was. -/
theorem Settled.refused (settled : kernel.Settled) (refuses : kernel.Refuses owner frame error)
    (address : Address) : kernel.Refused owner frame error (kernel.trap frame address) := by
  obtain ⟨consistent, owns, ready⟩ := settled.saved refuses.user refuses.owns
  obtain ⟨memory, same, intact⟩ := consistent.unchanged_syscall owns
    (Prod.ext refuses.answered rfl)
  have ends := trap_syscall refuses.user refuses.owns refuses.kind address
    (Prod.ext refuses.answered rfl)
  rw [same] at ends
  -- The call has changed nothing but memory, so environments are those that were saved.
  generalize moved : ({ kernel.saved owner frame with memory } : Kernel) = acted at ends
  have sameEnv (slot : Slot) : acted.envAt slot =
      if slot = owner then { kernel.envAt owner with frame } else kernel.envAt slot := by
    rw [← moved]
    exact envAt_saved kernel owner frame slot
  have stillOwns : acted.current = some owner := by
    rw [← moved]
    exact owns
  have stillReady : (acted.envAt owner).isRunnable = true := by
    rw [← moved]
    exact ready
  -- The caller goes on at once, so the processor and its space stay where they are.
  have answered : acted.withResult error.toWord =
      acted.modifyEnv owner (·.withResult error.toWord) := by
    simp only [withResult, stillOwns]
  rw [goOn_withResult stillOwns stillReady, answered] at ends
  have running := settled.running owner refuses.owns
  rw [ends]
  refine
    { resumes := by rw [sameEnv, if_pos rfl]
      envs := fun slot => ?_
      free_eq := by rw [← moved]; rfl
      memory := ⟨?_, ?_, ?_⟩
      current_eq := refuses.owns.symm
      lastRun_eq := running.2.1.symm
      console_eq := by rw [← moved]; rfl
      monitor_eq := by rw [← moved]; rfl
      clock_eq := by rw [← moved]; rfl
      config_eq := by rw [← moved]; rfl }
  · -- The caller has its answer, and everybody else is as before.
    rw [envAt_dispatched, envAt_modifyEnv, envAt_modifyEnv, if_pos rfl, sameEnv, if_pos rfl,
      sameEnv]
    split <;> rfl
  · rw [← moved]
    exact intact.tables
  · -- The space that is switched to is the one of the caller, as before.
    rw [running.2.2]
    show ((acted.modifyEnv owner _).envAt owner).space = _
    rw [envAt_modifyEnv, if_pos rfl, sameEnv, if_pos rfl]
    rfl
  · rw [← moved]
    exact intact.pool

/--
A system call that answers with an error changes nothing.

The caller finds the error in its result register, and a forced failure may have been used up.
-/
theorem refused_after (config : Config) (events : List KernelEvent) (owner : Slot)
    (frame : TrapFrame) (error : SysError) (address : Address)
    (refuses : (after config events).Refuses owner frame error) :
    (after config events).Refused owner frame error ((after config events).trap frame address) :=
  (settled_after config events).refused refuses address

/-- An environment asks for a page while the next allocation is bound to fail. -/
theorem refused_forced :
    let kernel := after { frames := 16 }
      [.create ⟨0, []⟩, .create ⟨0, []⟩, .reschedule, .forceFailure]
    let frame := Machine.called .initial .allocPage { second := 0x400000, third := 7 }
    kernel.Refuses (slotAt 1) frame .outOfMemory ∧
      kernel.Refused (slotAt 1) frame .outOfMemory (kernel.trap frame 0) := by
  -- The same frame would do if the failure had not been forced.
  have refuses : (after { frames := 16 } [.create ⟨0, []⟩, .create ⟨0, []⟩, .reschedule,
      .forceFailure]).Refuses (slotAt 1)
      (Machine.called .initial .allocPage { second := 0x400000, third := 7 }) .outOfMemory :=
    ⟨by decide, by decide +kernel, by decide, by decide +kernel⟩
  exact ⟨refuses, refused_after _ _ _ _ _ 0 refuses⟩

end Kernel

end Exokernel
