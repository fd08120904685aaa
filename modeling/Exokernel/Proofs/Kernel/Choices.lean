import Exokernel.Proofs.Kernel.Isolation
import Exokernel.Proofs.Kernel.Runs

/-! The choices of the next environment in a run, and where each of them starts its search. -/

namespace Exokernel.Kernel

variable {kernel last next : Kernel} {slot owner : Slot} {frame : TrapFrame}
  {address : Address} {event : KernelEvent}

section Search

/-- The kernel that chooses the next environment when one is destroyed, if there is a choice. -/
def destroySearch? (kernel : Kernel) (slot : Slot) : Option Kernel :=
  -- Whoever destroys another environment goes on itself.
  if kernel.current = some slot then some { kernel.freeEnv slot with current := none } else none

/-- The kernel that chooses the next environment in a write to the console. -/
def writeSearch? (kernel : Kernel) (va length : Word) : Option Kernel :=
  -- It chooses only if the caller is destroyed for naming memory that it may not read.
  match kernel.callerSpace with
  | .error _ => none
  | .ok (slot, space) =>
    match kernel.memory.userCheck space va length (.present ||| .user) with
    | .error _ => kernel.destroySearch? slot
    | .ok () => none

/-- The kernel that chooses the next environment when destruction is asked for. -/
def destroyCallSearch? (kernel : Kernel) (target : EnvId) : Option Kernel :=
  -- It chooses only if an environment is named that the caller may destroy.
  match kernel.findOwned target with
  | .error _ => none
  | .ok slot => kernel.destroySearch? slot

/-- The kernel that chooses the next environment in a system call. -/
def callSearch? (kernel : Kernel) (call : Syscall) (words : Arguments) : Option Kernel :=
  -- All other calls answer their caller, or leave it waiting.
  match call with
  | .writeConsole => kernel.writeSearch? words.first words.second
  | .destroyEnv => kernel.destroyCallSearch? ⟨words.first⟩
  | .yield => some (kernel.withResult 0)
  | _ => none

/-- The kernel that chooses the next environment in the system call of a frame. -/
def requestSearch? (kernel : Kernel) (frame : TrapFrame) : Option Kernel :=
  -- A number that no call has is answered with an error.
  let regs := frame.context.regs
  match Syscall.decode regs.eax with
  | .ok call => kernel.callSearch? call (.ofRegisters regs)
  | .error _ => none

/-- The kernel that chooses the next environment in a page fault. -/
def faultSearch? (kernel : Kernel) (slot : Slot) (frame : TrapFrame) (address : Address) :
    Option Kernel :=
  -- Without a delivery, or without room for its record, the environment is destroyed.
  match kernel.planFault slot frame with
  | none => kernel.destroySearch? slot
  | some delivery =>
    let bytes := (FaultRecord.ofFrame frame address).encode
    match kernel.memory.copyOut delivery.space delivery.recordAt bytes with
    | (.error _, memory) => { kernel with memory }.destroySearch? slot
    | (.ok (), _) => none

/-- The kernel that chooses the next environment while a trap is handled. -/
def handlerSearch? (kernel : Kernel) (origin : Option Slot) (frame : TrapFrame)
    (address : Address) : Option Kernel :=
  -- The timer always searches, and other traps only where they end an environment.
  match TrapKind.ofVector frame.vector, origin with
  | .pageFault, some slot => kernel.faultSearch? slot frame address
  | .systemCall, some _ => kernel.requestSearch? frame
  | .timer, _ => some { kernel with clock := kernel.clock.tick }
  | .unexpected, some slot => kernel.destroySearch? slot
  | _, _ => none

/-- The kernel that chooses the next environment because the current one cannot go on. -/
def goOnSearch? (kernel : Kernel) : Option Kernel :=
  -- Whoever can run goes on, and nobody is searched for.
  match kernel.current with
  | some slot => if (kernel.envAt slot).isRunnable then none else some kernel
  | none => some kernel

/-- The kernel that chooses the next environment while a trap is handled or when that is over. -/
def entrySearch? (kernel : Kernel) (origin : Option Slot) (frame : TrapFrame)
    (address : Address) : Option Kernel :=
  -- The handler comes first; only if it has not decided the processor may have to be given away.
  match kernel.handlerSearch? origin frame address with
  | some last => some last
  | none =>
    match kernel.handleTrap origin frame address with
    | (.leave _, _) => none
    | (.stay (), last) => last.goOnSearch?

/-- The kernel that chooses the next environment in a trap. -/
def trapSearch? (kernel : Kernel) (frame : TrapFrame) (address : Address) : Option Kernel :=
  -- A trap of user code is one of the owner, whose registers are saved first.
  if frame.fromUser then
    match kernel.current with
    | none => none
    | some slot => (kernel.saved slot frame).entrySearch? (some slot) frame address
  else kernel.entrySearch? none frame address

/-- The kernel that chooses the next environment in an event, if there is a choice. -/
def search? (kernel : Kernel) : KernelEvent → Option Kernel
  -- Other events choose nobody.
  | .trap frame address => kernel.trapSearch? frame address
  | .reschedule => some kernel
  | _ => none

/-- The slot that is chosen in an event. -/
def choice? (kernel : Kernel) (event : KernelEvent) : Option Slot :=
  (kernel.search? event).bind pickNext

/-- The slots that are chosen in a run, in order. -/
def choices (kernel : Kernel) : List KernelEvent → List Slot
  | [] => []
  | event :: rest => (kernel.choice? event).toList ++ (kernel.step event).choices rest

end Search

section Outcome

/-- To destroy the owner of the processor is to choose who runs next. -/
theorem destroyEnv_of_search (found : kernel.destroySearch? slot = some last) :
    kernel.destroyEnv slot = (.leave last.reschedule.1, last.reschedule.2) := by
  -- A search means that the slot owned the processor.
  unfold destroySearch? at found
  split at found
  · rename_i owns
    rw [destroyEnv_owner owns, Option.some.inj found]
  · simp at found

/-- To destroy anybody else is only to free the slot. -/
theorem destroyEnv_of_no_search (quiet : kernel.destroySearch? slot = none) :
    kernel.destroyEnv slot = (.stay (), kernel.freeEnv slot) := by
  -- Without a search the slot did not own the processor.
  unfold destroySearch? at quiet
  split at quiet
  · simp at quiet
  · rename_i elsewhere
    simp only [destroyEnv, if_neg elsewhere]

/-- A write to the console that searches ends with the choice. -/
theorem writeConsole_of_search {va length : Word}
    (found : kernel.writeSearch? va length = some last) :
    kernel.writeConsole va length = (.leave last.reschedule.1, last.reschedule.2) := by
  -- Only a caller that names memory it may not read is destroyed.
  simp only [writeSearch?] at found
  unfold writeConsole
  cases caller : kernel.callerSpace with
  | error error => simp [caller] at found
  | ok owner =>
    simp only [caller] at found
    dsimp only
    cases refused : kernel.memory.userCheck owner.2 va length (.present ||| .user) with
    | ok => simp [refused] at found
    | error bad =>
      simp only [refused] at found
      simp only [destroyEnv_of_search found, answerDestroy]

/-- A call for destruction that searches ends with the choice. -/
theorem destroyCall_of_search {target : EnvId}
    (found : kernel.destroyCallSearch? target = some last) :
    kernel.destroyCall target = (.leave last.reschedule.1, last.reschedule.2) := by
  simp only [destroyCallSearch?] at found
  unfold destroyCall
  -- A call that is refused chooses nobody.
  cases allowed : kernel.findOwned target with
  | error error => simp [allowed] at found
  | ok slot =>
    simp only [allowed] at found
    simp only [destroyEnv_of_search found, answerDestroy]

/-- A system call that chooses the next environment ends with the choice. -/
theorem perform_of_search {call : Syscall} {words : Arguments}
    (found : kernel.callSearch? call words = some last) :
    kernel.perform call words = (.leave last.reschedule.1, last.reschedule.2) := by
  unfold callSearch? at found
  -- One case for each call that can end in a choice.
  split at found
  · exact writeConsole_of_search found
  · exact destroyCall_of_search found
  · rw [Option.some.injEq] at found
    simp only [perform, yield, found]
  · simp at found

/-- A system call that does not choose the next environment answers its caller. -/
theorem perform_of_no_search {call : Syscall} {words : Arguments}
    (quiet : kernel.callSearch? call words = none) :
    ∃ value, (kernel.perform call words).1 = .stay value := by
  -- Only a print and a destruction can end without an answer, and then they search.
  cases call with
  | writeConsole =>
    simp only [callSearch?, writeSearch?] at quiet
    simp only [perform, writeConsole]
    split
    · exact ⟨_, rfl⟩
    · rename_i slot space caller
      simp only [caller] at quiet
      split
      · rename_i bad refused
        simp only [refused] at quiet
        rw [destroyEnv_of_no_search quiet]
        exact ⟨_, rfl⟩
      · split <;> exact ⟨_, rfl⟩
  | destroyEnv =>
    simp only [callSearch?, destroyCallSearch?] at quiet
    simp only [perform, destroyCall]
    split
    · exact ⟨_, rfl⟩
    · rename_i slot allowed
      simp only [allowed] at quiet
      rw [destroyEnv_of_no_search quiet]
      exact ⟨_, rfl⟩
  | yield => simp [callSearch?] at quiet
  | _ => exact ⟨_, rfl⟩

/-- A page fault that searches ends with the choice. -/
theorem handleFault_of_search (found : kernel.faultSearch? slot frame address = some last) :
    kernel.handleFault slot frame address = (.leave last.reschedule.1, last.reschedule.2) := by
  simp only [faultSearch?] at found
  unfold handleFault
  -- Without a delivery, or without a place for its record, the environment is destroyed.
  cases planned : kernel.planFault slot frame with
  | none =>
    simp only [planned] at found
    exact destroyEnv_of_search found
  | some delivery =>
    simp only [planned] at found
    dsimp only
    cases recorded : kernel.memory.copyOut delivery.space delivery.recordAt
      (FaultRecord.ofFrame frame address).encode with
    | mk result memory =>
      cases result with
      | error bad =>
        simp only [recorded] at found
        exact destroyEnv_of_search found
      | ok => simp [recorded] at found

/-- A system call that searches ends with the choice. -/
theorem handleCall_of_search (found : kernel.requestSearch? frame = some last) :
    kernel.handleCall frame = (.leave last.reschedule.1, last.reschedule.2) := by
  simp only [requestSearch?] at found
  simp only [handleCall, syscall]
  -- A number that no call has chooses nobody.
  cases decoded : Syscall.decode frame.context.regs.eax with
  | error error => simp [decoded] at found
  | ok call =>
    simp only [decoded] at found
    simp only [perform_of_search found]

/-- The handling of a trap that chooses the next environment ends with the choice. -/
theorem handleTrap_of_search {origin : Option Slot}
    (found : kernel.handlerSearch? origin frame address = some last) :
    kernel.handleTrap origin frame address =
      (.leave last.reschedule.1, last.reschedule.2) := by
  -- One case for each kind of trap; most of them are handled for an environment only.
  cases kind : TrapKind.ofVector frame.vector with
  | timer =>
    simp only [handlerSearch?, kind, Option.some.injEq] at found
    simp only [handleTrap, kind, found]
  | pageFault =>
    cases origin with
    | none => simp [handlerSearch?, kind] at found
    | some slot =>
      simp only [handlerSearch?, kind] at found
      simp only [handleTrap, kind, handleFault_of_search found]
  | systemCall =>
    cases origin with
    | none => simp [handlerSearch?, kind] at found
    | some slot =>
      simp only [handlerSearch?, kind] at found
      simp only [handleTrap, kind, handleCall_of_search found]
  | unexpected =>
    cases origin with
    | none => simp [handlerSearch?, kind] at found
    | some slot =>
      simp only [handlerSearch?, kind] at found
      simp only [handleTrap, kind, destroyEnv_of_search found]
  | _ => simp [handlerSearch?, kind] at found

/-- Where going on searches, it comes to choosing the next environment. -/
theorem goOn_of_search (found : kernel.goOnSearch? = some last) :
    last = kernel ∧ kernel.goOn = kernel.reschedule := by
  simp only [goOnSearch?] at found
  unfold goOn
  -- A search means that there is no owner, or that the owner cannot run.
  cases owns : kernel.current with
  | none =>
    simp only [owns, Option.some.injEq] at found
    exact ⟨found.symm, rfl⟩
  | some slot =>
    simp only [owns] at found
    split at found
    · simp at found
    · rename_i blocked
      exact ⟨(Option.some.inj found).symm, if_neg blocked⟩

/-- A trap that searches ends with the choice. -/
theorem conclude_of_search {origin : Option Slot}
    (found : kernel.entrySearch? origin frame address = some last) :
    conclude (kernel.handleTrap origin frame address) = last.reschedule := by
  unfold entrySearch? at found
  -- Either the handler has chosen already, or its owner cannot go on.
  split at found
  · rename_i chosen handled
    obtain rfl := Option.some.inj found
    rw [handleTrap_of_search handled]
    simp only [conclude]
  · split at found
    · simp at found
    · rename_i next handled
      obtain ⟨rfl, ends⟩ := goOn_of_search found
      rw [handled, conclude, ends]

/-- A trap in which the next environment is chosen ends with the choice. -/
theorem trap_of_search (found : kernel.trapSearch? frame address = some last) :
    kernel.trap frame address = last.reschedule := by
  unfold trapSearch? at found
  -- The trap is from user mode or from the kernel, and both conclude alike.
  split at found
  · rename_i user
    split at found
    · simp at found
    · rename_i slot owns
      rw [trap_fromUser user owns, conclude_of_search found]
  · rename_i mode
    rw [trap_fromKernel mode, conclude_of_search found]

end Outcome

section Cursor

/-- The search starts at the same place, and nobody else has become the owner of the processor. -/
structure Steady (kernel next : Kernel) : Prop where
  /-- The slot that was dispatched last. -/
  lastRun_eq : next.lastRun = kernel.lastRun
  /-- The owner of the processor is the same, or there is none. -/
  current_eq : next.current = kernel.current ∨ next.current = none

/-- No effect of a trap moves the place where the search starts. -/
theorem steady_effect (owns : kernel.current = some owner) {acted : Kernel} {answer : Option Word}
    (effect : Effect kernel owner frame address acted answer) : kernel.Steady acted := by
  refine ⟨?_, owns ▸ current_effect owns effect⟩
  -- Only a dispatch does.
  cases effect with
  | fork value request allocated =>
    obtain ⟨rest, memory, -, -, rfl⟩ := allocEnv_ok allocated
    rfl
  | unforked request refused =>
    rcases allocEnv_error refused with rfl | ⟨-, memory, -, rfl⟩ <;> rfl
  | _ => rfl

/-- To set the caller's result moves neither the cursor nor the owner. -/
theorem steady_withResult (kernel : Kernel) (value : Word) :
    kernel.Steady (kernel.withResult value) := by
  -- Only the registers in one slot are changed.
  unfold withResult
  split <;> exact ⟨rfl, .inl rfl⟩

/-- Two steady changes are one. -/
theorem Steady.trans (first : kernel.Steady next) (second : next.Steady last) :
    kernel.Steady last where
  lastRun_eq := second.lastRun_eq.trans first.lastRun_eq
  current_eq := second.current_eq.elim
    (fun same => first.current_eq.imp same.trans same.trans) .inr

/-- How the handling of a trap ends that chooses nobody: its owner goes on, or the kernel stops. -/
inductive Quiet (kernel : Kernel) (origin : Option Slot) : Control Unit × Kernel → Prop where
  /-- Whoever was interrupted may go on. -/
  | stay {next : Kernel} (steady : kernel.Steady next) : Quiet kernel origin (.stay (), next)
  /-- The owner of the trap goes on at once. -/
  | resume {next : Kernel} {slot : Slot} (decision : Dispatch) (own : origin = some slot)
      (cursor : next.lastRun = some slot) : Quiet kernel origin (.leave decision, next)
  /-- The kernel stops. -/
  | stop {next : Kernel} (decision : Dispatch) (cursor : next.lastRun = kernel.lastRun) :
      Quiet kernel origin (.leave decision, next)

/-- A destruction that chooses nobody is quiet. -/
theorem quiet_destroyEnv {origin : Option Slot} (quiet : kernel.destroySearch? slot = none) :
    kernel.Quiet origin (kernel.destroyEnv slot) := by
  -- Only a slot has become free.
  rw [destroyEnv_of_no_search quiet]
  exact .stay ⟨rfl, .inl rfl⟩

/-- A system call that chooses nobody is quiet. -/
theorem quiet_handleCall (owns : kernel.current = some owner)
    (kind : TrapKind.ofVector frame.vector = .systemCall)
    (quiet : kernel.requestSearch? frame = none) :
    kernel.Quiet (some owner) (kernel.handleCall frame) := by
  simp only [requestSearch?] at quiet
  simp only [handleCall, syscall]
  cases decoded : Syscall.decode frame.context.regs.eax with
  | error error => exact .stay (kernel.steady_withResult _)
  | ok call =>
    simp only [decoded] at quiet
    obtain ⟨value, answered⟩ := perform_of_no_search quiet
    have completes : Completes kernel owner frame 0
        (kernel.perform call (.ofRegisters frame.context.regs)) :=
      completes_perform owns ⟨kind, decoded, rfl⟩
    dsimp only
    cases performed : kernel.perform call (.ofRegisters frame.context.regs) with
    | mk control acted =>
      rw [performed] at answered completes
      subst answered
      -- A call that answers has one effect, and no effect moves the cursor.
      cases completes with
      | answer effect =>
        exact .stay ((steady_effect owns effect).trans (acted.steady_withResult value))

/-- A page fault that chooses nobody is quiet. -/
theorem quiet_handleFault (quiet : kernel.faultSearch? owner frame address = none) :
    kernel.Quiet (some owner) (kernel.handleFault owner frame address) := by
  simp only [faultSearch?] at quiet
  unfold handleFault
  cases planned : kernel.planFault owner frame with
  | none =>
    simp only [planned] at quiet
    exact quiet_destroyEnv quiet
  | some delivery =>
    simp only [planned] at quiet
    dsimp only
    cases recorded : kernel.memory.copyOut delivery.space delivery.recordAt
      (FaultRecord.ofFrame frame address).encode with
    | mk result memory =>
      simp only [recorded] at quiet
      cases result with
      | error bad =>
        dsimp only at quiet ⊢
        -- A destruction that chooses nobody has left its caller where it was.
        rw [destroyEnv_of_no_search quiet]
        exact .stay ⟨rfl, .inl rfl⟩
      | ok =>
        -- The environment goes on in its handler, unless it cannot run.
        simp only [run]
        split
        · exact .resume _ rfl rfl
        · exact .stop _ rfl

/-- The handling of a trap that chooses nobody leaves its owner there, or stops the kernel. -/
theorem quiet_handleTrap {origin : Option Slot}
    (own : ∀ owner, origin = some owner → kernel.current = some owner)
    (quiet : kernel.handlerSearch? origin frame address = none) :
    kernel.Quiet origin (kernel.handleTrap origin frame address) := by
  -- One case for each kind of trap, as in the search itself.
  cases kind : TrapKind.ofVector frame.vector with
  | timer => simp [handlerSearch?, kind] at quiet
  | breakpoint =>
    simp only [handleTrap, kind]
    exact .stay ⟨rfl, .inl rfl⟩
  | spurious =>
    simp only [handleTrap, kind]
    exact .stay ⟨rfl, .inl rfl⟩
  | pageFault =>
    cases origin with
    -- Kernel mode has no environment to end, so that the kernel stops.
    | none =>
      simp only [handleTrap, kind]
      exact .stop _ rfl
    | some slot =>
      simp only [handlerSearch?, kind] at quiet
      simp only [handleTrap, kind]
      exact quiet_handleFault quiet
  | systemCall =>
    cases origin with
    | none =>
      simp only [handleTrap, kind]
      exact .stop _ rfl
    | some slot =>
      simp only [handlerSearch?, kind] at quiet
      simp only [handleTrap, kind]
      exact quiet_handleCall (own slot rfl) kind quiet
  | unexpected =>
    cases origin with
    | none =>
      simp only [handleTrap, kind]
      exact .stop _ rfl
    | some slot =>
      simp only [handlerSearch?, kind] at quiet
      simp only [handleTrap, kind]
      exact quiet_destroyEnv quiet

/-- Where going on chooses nobody, the owner of the processor ran last. -/
theorem lastRun_of_goOnSearch (quiet : kernel.goOnSearch? = none) :
    ∃ owner, kernel.current = some owner ∧ kernel.goOn.2.lastRun = some owner := by
  unfold goOnSearch? at quiet
  -- Where nothing is searched for, the owner is there and goes on.
  split at quiet
  · rename_i owner owns
    split at quiet
    · rename_i ready
      rw [goOn_of_isRunnable owns ready]
      exact ⟨owner, owns, rfl⟩
    · simp at quiet
  · simp at quiet

/-- If a trap chooses nobody, the search will start where it would have started before. -/
theorem Consistent.lastRun_of_quiet (consistent : kernel.Consistent) {origin : Option Slot}
    (own : ∀ owner, origin = some owner → kernel.current = some owner)
    (quiet : kernel.entrySearch? origin frame address = none) :
    (conclude (kernel.handleTrap origin frame address)).2.lastRun = kernel.lastRun := by
  unfold entrySearch? at quiet
  split at quiet
  · simp at quiet
  · rename_i unchosen
    have ends := quiet_handleTrap own unchosen
    generalize kernel.handleTrap origin frame address = outcome at ends quiet
    cases ends with
    | stay steady =>
      -- The owner of the processor goes on, and it was dispatched last before the trap too.
      obtain ⟨owner, owns, cursor⟩ := lastRun_of_goOnSearch quiet
      rw [conclude, cursor]
      have before := steady.current_eq.resolve_right (by simp [owns])
      exact (consistent.running owner (before.symm.trans owns)).2.1.symm
    -- The owner that goes on was dispatched last, since nobody was chosen.
    | resume decision same cursor =>
      rename_i next slot
      rw [conclude, cursor]
      exact (consistent.running slot (own slot same)).2.1.symm
    | stop decision cursor => exact cursor

/-- The cursor has not moved when a destruction chooses. -/
theorem lastRun_of_destroySearch (found : kernel.destroySearch? slot = some last) :
    last.lastRun = kernel.lastRun := by
  -- The slot is freed before, which leaves the cursor alone.
  unfold destroySearch? at found
  split at found
  · rw [← Option.some.inj found]
    rfl
  · simp at found

/-- The cursor has not moved when a system call chooses. -/
theorem lastRun_of_callSearch {call : Syscall} {words : Arguments}
    (found : kernel.callSearch? call words = some last) : last.lastRun = kernel.lastRun := by
  unfold callSearch? at found
  -- Printing, destroying and yielding are the calls that search.
  split at found
  · unfold writeSearch? at found
    split at found
    · simp at found
    · split at found
      · exact lastRun_of_destroySearch found
      · simp at found
  · unfold destroyCallSearch? at found
    split at found
    · simp at found
    · exact lastRun_of_destroySearch found
  · rw [← Option.some.inj found]
    exact (kernel.steady_withResult 0).lastRun_eq
  · simp at found

/-- The cursor has not moved when a page fault chooses. -/
theorem lastRun_of_faultSearch (found : kernel.faultSearch? slot frame address = some last) :
    last.lastRun = kernel.lastRun := by
  unfold faultSearch? at found
  -- A fault chooses only where its environment is destroyed.
  split at found
  · exact lastRun_of_destroySearch found
  · dsimp only at found
    split at found
    · have same := lastRun_of_destroySearch found
      exact same
    · simp at found

/-- The cursor has not moved when the handler of a trap chooses. -/
theorem lastRun_of_handlerSearch {origin : Option Slot}
    (found : kernel.handlerSearch? origin frame address = some last) :
    last.lastRun = kernel.lastRun := by
  unfold handlerSearch? at found
  -- One case for each kind of trap that searches.
  split at found
  · exact lastRun_of_faultSearch found
  · simp only [requestSearch?] at found
    split at found
    · exact lastRun_of_callSearch found
    · simp at found
  · rw [← Option.some.inj found]
  · exact lastRun_of_destroySearch found
  · simp at found

/-- A search starts where it would have started before the trap. -/
theorem lastRun_of_entrySearch {origin : Option Slot}
    (own : ∀ owner, origin = some owner → kernel.current = some owner)
    (found : kernel.entrySearch? origin frame address = some last) :
    last.lastRun = kernel.lastRun := by
  unfold entrySearch? at found
  -- Either the handler searches itself, or it is quiet and its owner cannot go on.
  split at found
  · rename_i chosen handled
    rw [← Option.some.inj found]
    exact lastRun_of_handlerSearch handled
  · rename_i unchosen
    have ends := quiet_handleTrap own unchosen
    generalize kernel.handleTrap origin frame address = outcome at ends found
    cases ends with
    | stay steady =>
      rw [(goOn_of_search found).1]
      exact steady.lastRun_eq
    | _ => simp at found

/-- Creating an environment does not move the place where the search starts. -/
theorem lastRun_createEnv (kernel : Kernel) (image : ProgramImage) :
    (kernel.createEnv image).2.lastRun = kernel.lastRun := by
  unfold createEnv
  -- The allocation leaves it alone, and so does loading the image.
  cases allocated : kernel.allocEnv .self with
  | mk result made =>
    cases result with
    | error error => rcases allocEnv_error allocated with rfl | ⟨-, memory, -, rfl⟩ <;> rfl
    | ok created =>
      obtain ⟨rest, memory, -, -, rfl⟩ := allocEnv_ok allocated
      dsimp only
      split <;> rfl

/-- An event that chooses nobody does not move the place where the search starts. -/
theorem Settled.lastRun_of_no_search (settled : kernel.Settled)
    (quiet : kernel.search? event = none) : (kernel.step event).lastRun = kernel.lastRun := by
  -- Of the events that may search, only a trap may also not do so.
  cases event with
  | trap frame address =>
    simp only [search?, trapSearch?] at quiet
    split at quiet
    · rename_i user
      split at quiet
      · rename_i unowned
        rw [Kernel.step, trap_unowned user unowned]
        rfl
      · rename_i owner owns
        obtain ⟨consistent, savedOwns, -⟩ := settled.saved user owns
        rw [Kernel.step, trap_fromUser user owns]
        exact consistent.lastRun_of_quiet (fun other same => Option.some.inj same ▸ savedOwns) quiet
    · rename_i mode
      rw [Kernel.step, trap_fromKernel mode]
      exact settled.toConsistent.lastRun_of_quiet (by simp) quiet
  | create image => exact kernel.lastRun_createEnv image
  | reschedule => simp [search?] at quiet
  | _ => rfl

/-- The search of an event starts at the slot that was dispatched last before it. -/
theorem lastRun_of_search (found : kernel.search? event = some last) :
    last.lastRun = kernel.lastRun := by
  -- Saving the registers of a trap moves no cursor.
  cases event with
  | trap frame address =>
    simp only [search?, trapSearch?] at found
    split at found
    · rename_i user
      split at found
      · simp at found
      · rename_i owner owns
        have savedOwns : (kernel.saved owner frame).current = some owner := owns
        have same := lastRun_of_entrySearch
          (fun other same => Option.some.inj same ▸ savedOwns) found
        exact same
    · exact lastRun_of_entrySearch (by simp) found
  | reschedule => rw [← Option.some.inj found]
  | _ => simp [search?] at found

end Cursor

end Exokernel.Kernel
