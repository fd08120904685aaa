import Exokernel.Proofs.Kernel.Schedule
import Exokernel.Proofs.Memory.Access

/-! Everything that a trap of an environment can do before the processor is given away. -/

namespace Exokernel

/-- A frame asks for a system call with the given argument words. -/
structure TrapFrame.Requests (frame : TrapFrame) (call : Syscall) (words : Arguments) : Prop where
  /-- The trap is a system call. -/
  kind : TrapKind.ofVector frame.vector = .systemCall
  /-- The number register selects the call. -/
  number : Syscall.decode frame.context.regs.eax = .ok call
  /-- The argument registers carry the words. -/
  arguments : words = .ofRegisters frame.context.regs

namespace Kernel

/-- The kernel once the register file of a trap is saved in the environment that trapped. -/
def saved (kernel : Kernel) (owner : Slot) (frame : TrapFrame) : Kernel :=
  kernel.modifyEnv owner ({ · with frame })

/-- Saving a register file changes nothing else, and nobody else. -/
theorem envAt_saved (kernel : Kernel) (owner : Slot) (frame : TrapFrame) (slot : Slot) :
    (kernel.saved owner frame).envAt slot =
      if slot = owner then { kernel.envAt owner with frame } else kernel.envAt slot :=
  kernel.envAt_modifyEnv owner slot ({ · with frame })

/-- The kernel once the caller of a system call has its answer, if it gets one. -/
def answered (kernel : Kernel) : Option Word → Kernel
  | some value => kernel.withResult value
  | none => kernel

/-- An answer goes to a saved register of the owner of the processor, or nowhere. -/
theorem answered_cases (kernel : Kernel) (answer : Option Word) :
    kernel.answered answer = kernel ∨ ∃ owner value, kernel.current = some owner ∧
      kernel.answered answer = kernel.modifyEnv owner (·.withResult value) := by
  cases answer with
  | none => exact .inl rfl
  | some value =>
    simp only [answered, withResult]
    -- Without an owner there is no register to put the answer in.
    split
    · rename_i owner owns
      exact .inr ⟨owner, value, owns, rfl⟩
    · exact .inl rfl

/--
The ways in which a trap changes the kernel, before the next environment is chosen, together with
the word that the environment finds in its result register.

The first kernel is the one that has saved the register file already.
-/
inductive Effect (kernel : Kernel) (owner : Slot) (frame : TrapFrame) (address : Address) :
    Kernel → Option Word → Prop where
  /-- Nothing changes: a question, a refused call, a pause. -/
  | nothing (answer : Option Word) : Effect kernel owner frame address kernel answer
  /-- A breakpoint enters the monitor. -/
  | breakpoint : Effect kernel owner frame address
      (kernel.enterMonitor (.breakpoint kernel.currentId frame)) none
  /-- The timer ticks. -/
  | tick : Effect kernel owner frame address { kernel with clock := kernel.clock.tick } none
  /-- A page fault goes to the environment's own handler. -/
  | fault {delivery : FaultDelivery} {memory : Memory}
      (planned : kernel.planFault owner frame = some delivery)
      (recorded : kernel.memory.copyOut delivery.space delivery.recordAt
        (FaultRecord.ofFrame frame address).encode = (.ok (), memory)) :
      Effect kernel owner frame address
        ({ kernel with memory }.modifyEnv owner delivery.enter) none
  /-- The environment is destroyed, by its own call or because it cannot go on. -/
  | exit : Effect kernel owner frame address { kernel.freeEnv owner with current := none } none
  /-- The console is written or read. -/
  | console (console : Console) (value : Word) :
      Effect kernel owner frame address { kernel with console } (some value)
  /-- A child is destroyed. -/
  | destroy {words : Arguments} {slot : Slot} (request : frame.Requests .destroyEnv words)
      (found : kernel.findOwned ⟨words.first⟩ = .ok slot) (other : slot ≠ owner) :
      Effect kernel owner frame address (kernel.freeEnv slot) (some 0)
  /-- The caller or a child is blocked or made runnable. -/
  | setStatus {words : Arguments} {slot : Slot} {status : Status}
      (request : frame.Requests .setStatus words)
      (settable : settableStatus words.second = .ok status)
      (found : kernel.findOwned ⟨words.first⟩ = .ok slot) :
      Effect kernel owner frame address (kernel.modifyEnv slot ({ · with status })) (some 0)
  /-- The fault entry point of the caller or a child is set. -/
  | setFaultEntry {words : Arguments} {slot : Slot} (faultEntry : Option Address)
      (request : frame.Requests .setFaultEntry words)
      (found : kernel.findOwned ⟨words.first⟩ = .ok slot) :
      Effect kernel owner frame address (kernel.modifyEnv slot ({ · with faultEntry })) (some 0)
  /-- The caller waits for a message. -/
  | receive {words : Arguments} {landing : Option Address}
      (request : frame.Requests .receive words)
      (resolved : resolveLanding words.first = .ok landing) :
      Effect kernel owner frame address (kernel.modifyEnv owner (·.waiting landing)) (some 0)
  /-- A fresh page is mapped, or memory runs out. -/
  | allocPage {words : Arguments} {space : SpaceHandle} {page : UserPage} {flags : PageFlags}
      (value : Word) (request : frame.Requests .allocPage words)
      (resolved : kernel.resolveAlloc (.ofArguments words) = .ok (space, page, flags)) :
      Effect kernel owner frame address
        { kernel with memory := (kernel.memory.mapFresh space page.address flags).2 } (some value)
  /-- A page is shared, or memory runs out. -/
  | mapPage {words : Arguments} {planned : PlannedMapping} (value : Word)
      (request : frame.Requests .mapPage words)
      (resolved : kernel.resolveMap (.ofArguments words) = .ok planned) :
      Effect kernel owner frame address
        { kernel with memory := (planned.apply kernel.memory).2 } (some value)
  /-- A mapping is removed. -/
  | unmapPage {words : Arguments} {space : SpaceHandle} {page : UserPage} (value : Word)
      (request : frame.Requests .unmapPage words)
      (resolved : kernel.resolveUnmap (.ofArguments words) = .ok (space, page)) :
      Effect kernel owner frame address
        { kernel with memory := (kernel.memory.unmap space page.address).2 } (some value)
  /-- A message arrives. -/
  | deliver {words : Arguments} {delivery : Delivery} {memory : Memory} (value : Word)
      (request : frame.Requests .trySend words)
      (resolved : kernel.resolveSend (.ofArguments words) = .ok delivery)
      (placed : delivery.placePage kernel.memory = (.ok (), memory)) :
      Effect kernel owner frame address
        ({ kernel with memory }.modifyEnv delivery.receiver delivery.accept) (some value)
  /-- Memory runs out before the page of a message is mapped. -/
  | undelivered {words : Arguments} {delivery : Delivery} {memory : Memory} {error : SysError}
      (request : frame.Requests .trySend words)
      (resolved : kernel.resolveSend (.ofArguments words) = .ok delivery)
      (unplaced : delivery.placePage kernel.memory = (.error error, memory)) :
      Effect kernel owner frame address { kernel with memory } (some error.toWord)
  /-- A child is created. -/
  | fork {words : Arguments} {child : Slot} {space : SpaceHandle} {next : Kernel} (value : Word)
      (request : frame.Requests .fork words)
      (allocated : kernel.allocEnv (kernel.envAt owner).id = (.ok (child, space), next)) :
      Effect kernel owner frame address
        (next.modifyEnv child (·.asChildOf (kernel.envAt owner))) (some value)
  /-- No child can be created. -/
  | unforked {words : Arguments} {error : SysError} {next : Kernel}
      (request : frame.Requests .fork words)
      (refused : kernel.allocEnv (kernel.envAt owner).id = (.error error, next)) :
      Effect kernel owner frame address next (some error.toWord)

/-- How a system call ends: with a word for its caller, or with the processor given away. -/
inductive Completes (kernel : Kernel) (owner : Slot) (frame : TrapFrame) (address : Address) :
    Control Word × Kernel → Prop where
  /-- The caller gets a word, and goes on if it still can. -/
  | answer {acted : Kernel} {value : Word}
      (effect : Effect kernel owner frame address acted (some value)) :
      Completes kernel owner frame address (.stay value, acted)
  /-- The caller is gone. -/
  | exit {outcome : Dispatch × Kernel}
      (chosen : outcome = { kernel.freeEnv owner with current := none }.reschedule) :
      Completes kernel owner frame address (.leave outcome.1, outcome.2)
  /-- The caller gives the processor up. -/
  | pause {outcome : Dispatch × Kernel} (chosen : outcome = (kernel.withResult 0).reschedule) :
      Completes kernel owner frame address (.leave outcome.1, outcome.2)

section Calls

variable {kernel : Kernel} {owner : Slot} {frame : TrapFrame} {address : Address}
  {words : Arguments}

/-- An environment that owns the processor and is destroyed leaves it to another one. -/
theorem destroyEnv_owner (owns : kernel.current = some owner) : kernel.destroyEnv owner =
    (.leave { kernel.freeEnv owner with current := none }.reschedule.1,
      { kernel.freeEnv owner with current := none }.reschedule.2) := by
  -- The processor is given up at once.
  simp only [destroyEnv, if_pos owns]

/-- An environment that does not own the processor is destroyed without further consequences. -/
theorem destroyEnv_other {slot : Slot} (owns : kernel.current = some owner)
    (other : slot ≠ owner) : kernel.destroyEnv slot = (.stay (), kernel.freeEnv slot) := by
  -- Whose processor it is does not change.
  have elsewhere : kernel.current ≠ some slot := by simpa [owns] using Ne.symm other
  simp only [destroyEnv, if_neg elsewhere]

/-- The caller of a system call is the environment that owns the processor. -/
theorem callerSpace_ok (owns : kernel.current = some owner) {slot : Slot} {space : SpaceHandle}
    (found : kernel.callerSpace = .ok (slot, space)) :
    slot = owner ∧ (kernel.envAt owner).space = some space := by
  -- The current slot is read first, and then the space that it names.
  simp only [callerSpace, Kernel.owner, owns, bind, Except.bind, spaceOf, pure,
    Except.pure] at found
  cases held : (kernel.envAt owner).space with
  | none => simp [held] at found
  | some handle =>
    simp only [held, Except.ok.injEq, Prod.mk.injEq] at found
    exact ⟨found.1.symm, congrArg some found.2⟩

/-- Writing to the console changes the console, or destroys the caller. -/
theorem completes_writeConsole (owns : kernel.current = some owner) (va length : Word) :
    Completes kernel owner frame address (kernel.writeConsole va length) := by
  -- A range that the caller cannot read is the end of the caller.
  unfold writeConsole
  split
  · exact .answer (.nothing _)
  · rename_i slot space found
    obtain ⟨rfl, -⟩ := callerSpace_ok owns found
    split
    · rw [destroyEnv_owner owns]
      exact .exit rfl
    · split
      · exact .answer (.nothing _)
      · exact .answer (.console _ 0)

/-- Destroying an environment is the end of the caller, or the end of a child. -/
theorem completes_destroyCall (owns : kernel.current = some owner)
    (request : frame.Requests .destroyEnv words) :
    Completes kernel owner frame address (kernel.destroyCall ⟨words.first⟩) := by
  -- What matters is whether the id leads back to the caller.
  unfold destroyCall
  split
  · exact .answer (.nothing _)
  · rename_i slot found
    by_cases self : slot = owner
    · rw [self, destroyEnv_owner owns]
      exact .exit rfl
    · rw [destroyEnv_other owns self]
      exact .answer (.destroy request found self)

/-- Creating a child either succeeds or changes nothing but what the failure cost. -/
theorem completes_fork (owns : kernel.current = some owner)
    (request : frame.Requests .fork words) :
    Completes kernel owner frame address (answer kernel.fork) := by
  -- The parent of the child is the owner of the processor.
  simp only [fork, Kernel.owner, owns]
  cases outcome : kernel.allocEnv (kernel.envAt owner).id with
  | mk result next =>
    cases result with
    | error error => exact .answer (.unforked request outcome)
    | ok made => exact .answer (.fork _ request outcome)

/-- A status is set if it may be set and the target may be touched. -/
theorem completes_setStatus (request : frame.Requests .setStatus words) :
    Completes kernel owner frame address
      (answerUnit (kernel.setStatus ⟨words.first⟩ words.second)) := by
  -- Both arguments must be good; either error leaves everything as it is.
  unfold setStatus
  split
  · rename_i status slot settable found
    exact .answer (.setStatus request settable found)
  · exact .answer (.nothing _)
  · exact .answer (.nothing _)

/-- An entry point is set if the target may be touched. -/
theorem completes_setFaultEntry (request : frame.Requests .setFaultEntry words) :
    Completes kernel owner frame address
      (answerUnit (kernel.setFaultEntry ⟨words.first⟩ words.second)) := by
  -- Only the lookup of the target can fail.
  unfold setFaultEntry
  split
  · exact .answer (.nothing _)
  · rename_i slot found
    exact .answer (.setFaultEntry _ request found)

/-- The caller waits if the place where pages land is acceptable. -/
theorem completes_receive (owns : kernel.current = some owner)
    (request : frame.Requests .receive words) :
    Completes kernel owner frame address (answerUnit (kernel.receive words.first)) := by
  -- The caller is blocked only once the landing address is accepted.
  simp only [receive, Kernel.owner, owns]
  cases resolved : resolveLanding words.first with
  | error error => exact .answer (.nothing _)
  | ok landing => exact .answer (.receive request resolved)

/-- A fresh page is asked for only once the request is found acceptable. -/
theorem completes_allocPage (request : frame.Requests .allocPage words) :
    Completes kernel owner frame address
      (answerUnit (kernel.allocPage (.ofArguments words))) := by
  -- A request that is not acceptable has no effect.
  unfold allocPage
  split
  · exact .answer (.nothing _)
  · rename_i space page flags resolved
    exact .answer (.allocPage _ request resolved)

/-- A page is shared only once the request is found acceptable. -/
theorem completes_mapPage (request : frame.Requests .mapPage words) :
    Completes kernel owner frame address
      (answerUnit (kernel.mapPage (.ofArguments words))) := by
  -- A request that is not acceptable has no effect.
  unfold mapPage
  split
  · exact .answer (.nothing _)
  · rename_i planned resolved
    exact .answer (.mapPage _ request resolved)

/-- A mapping is removed only once the request is found acceptable. -/
theorem completes_unmapPage (request : frame.Requests .unmapPage words) :
    Completes kernel owner frame address
      (answerUnit (kernel.unmapPage (.ofArguments words))) := by
  -- A request that is not acceptable has no effect.
  unfold unmapPage
  split
  · exact .answer (.nothing _)
  · rename_i space page resolved
    exact .answer (.unmapPage _ request resolved)

/-- A message arrives, or its page cannot be mapped, or the send is refused. -/
theorem completes_trySend (request : frame.Requests .trySend words) :
    Completes kernel owner frame address
      (answer (kernel.trySend (.ofArguments words))) := by
  -- The page is placed before anything of the receiver is written.
  unfold trySend
  split
  · exact .answer (.nothing _)
  · rename_i delivery resolved
    split
    · rename_i error memory unplaced
      exact .answer (.undelivered request resolved unplaced)
    · rename_i memory placed
      exact .answer (.deliver _ request resolved placed)

/-- Every system call has one of the effects, or gives the processor away. -/
theorem completes_perform (owns : kernel.current = some owner) {call : Syscall}
    (request : frame.Requests call words) :
    Completes kernel owner frame address (kernel.perform call words) := by
  -- One case for each system call.
  cases call with
  | writeConsole => exact completes_writeConsole owns _ _
  | readConsole => exact .answer (.console kernel.console.read.2 kernel.readConsole.1)
  | currentEnv => exact .answer (.nothing _)
  | destroyEnv => exact completes_destroyCall owns request
  | yield =>
    have chosen : kernel.yield = (kernel.withResult 0).reschedule := by rw [yield]
    simp only [perform]
    exact .pause chosen
  | fork => exact completes_fork owns request
  | setStatus => exact completes_setStatus request
  | allocPage => exact completes_allocPage request
  | mapPage => exact completes_mapPage request
  | unmapPage => exact completes_unmapPage request
  | setFaultEntry => exact completes_setFaultEntry request
  | receive => exact completes_receive owns request
  | trySend => exact completes_trySend request
  | time => exact .answer (.nothing _)

end Calls

end Kernel

end Exokernel
