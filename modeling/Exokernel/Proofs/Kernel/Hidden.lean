import Exokernel.Proofs.Kernel.Trap
import Exokernel.Proofs.Memory.Hidden

/-! What the kernel does on a trap does not depend on frames that the trapping space lacks. -/

namespace Exokernel

open Memory (map_hide unmap_hide mapFresh_hide userCheck_hide copyIn_hide copyOut_hide)

namespace PlannedMapping

/-- A planned mapping is made alike. -/
theorem apply_hide (planned : PlannedMapping) (shown : Set FrameNumber) (memory : Memory) :
    planned.apply (memory.hide shown) =
      Prod.map id (Memory.hide shown) (planned.apply memory) := by
  -- The plan names its space, address and frame, and nothing that could be hidden.
  simp only [apply, map_hide]
  rfl

/-- A planned mapping takes the place of another one alike. -/
theorem replace_hide (planned : PlannedMapping) (shown : Set FrameNumber) (memory : Memory) :
    planned.replace (memory.hide shown) =
      Prod.map id (Memory.hide shown) (planned.replace memory) := by
  -- The old mapping goes first, and nothing more happens if it cannot.
  simp only [replace, unmap_hide]
  obtain ⟨result, next⟩ := memory.unmap planned.space planned.va
  cases result with
  | error error => rfl
  | ok => exact planned.apply_hide shown next

end PlannedMapping

namespace Kernel

/-- The kernel with zeros for the contents of every frame that is not shown. -/
noncomputable def hide (shown : Set FrameNumber) (kernel : Kernel) : Kernel :=
  { kernel with memory := kernel.memory.hide shown }

/-- Every frame is shown that the owner of the processor has mapped in its space. -/
def Shows (kernel : Kernel) (shown : Set FrameNumber) : Prop :=
  ∀ owner space, kernel.current = some owner → (kernel.envAt owner).space = some space →
    kernel.memory.Shows shown space

variable {kernel : Kernel} {shown : Set FrameNumber} {owner slot : Slot} {frame : TrapFrame}

/-- The memory of a kernel is where frames are hidden. -/
@[simp] theorem memory_hide (shown : Set FrameNumber) (kernel : Kernel) :
    (kernel.hide shown).memory = kernel.memory.hide shown := rfl

/-- The environments are not concerned. -/
@[simp] theorem envs_hide (shown : Set FrameNumber) (kernel : Kernel) :
    (kernel.hide shown).envs = kernel.envs := rfl

/-- Nor is it who owns the processor. -/
@[simp] theorem current_hide (shown : Set FrameNumber) (kernel : Kernel) :
    (kernel.hide shown).current = kernel.current := (rfl)

/-- Nor who ran last. -/
@[simp] theorem lastRun_hide (shown : Set FrameNumber) (kernel : Kernel) :
    (kernel.hide shown).lastRun = kernel.lastRun := (rfl)

/-- Nor what is in a slot. -/
@[simp] theorem envAt_hide (shown : Set FrameNumber) (kernel : Kernel) (slot : Slot) :
    (kernel.hide shown).envAt slot = kernel.envAt slot := (rfl)

/-- Nor who makes the calls. -/
@[simp] theorem owner_hide (shown : Set FrameNumber) (kernel : Kernel) :
    (kernel.hide shown).owner = kernel.owner := rfl

/-- Nor whom an id names. -/
@[simp] theorem findOwned_hide (shown : Set FrameNumber) (kernel : Kernel) (id : EnvId) :
    (kernel.hide shown).findOwned id = kernel.findOwned id := rfl

section Scheduling

/-- An environment is dispatched alike. -/
theorem run_hide (shown : Set FrameNumber) (kernel : Kernel) (slot : Slot) :
    (kernel.hide shown).run slot = Prod.map id (hide shown) (kernel.run slot) := by
  -- Whether it can run stands in its slot.
  simp only [run, envAt_hide]
  split <;> rfl

/-- The next environment is chosen alike. -/
theorem reschedule_hide (shown : Set FrameNumber) (kernel : Kernel) :
    (kernel.hide shown).reschedule = Prod.map id (hide shown) kernel.reschedule := by
  -- The choice depends on who can run, and not on any memory.
  have choice : (kernel.hide shown).pickNext = kernel.pickNext := by
    unfold pickNext
    simp only [envAt_hide, lastRun_hide]
  unfold reschedule
  rw [choice]
  cases kernel.pickNext with
  | some slot => exact kernel.run_hide shown slot
  | none => rfl

/-- Whoever ran goes on alike, or another one is chosen alike. -/
theorem goOn_hide (shown : Set FrameNumber) (kernel : Kernel) :
    (kernel.hide shown).goOn = Prod.map id (hide shown) kernel.goOn := by
  -- Who owns the processor, and whether it can run, is not hidden.
  simp only [goOn, current_hide, envAt_hide, run_hide, reschedule_hide]
  split
  · split <;> rfl
  · rfl

/-- A kernel entry ends alike. -/
theorem conclude_hide (shown : Set FrameNumber) (outcome : Control Unit × Kernel) :
    conclude (Prod.map id (hide shown) outcome) = Prod.map id (hide shown) (conclude outcome) := by
  -- It ends with a decision that was made, or with whoever ran.
  obtain ⟨control, next⟩ := outcome
  cases control with
  | stay => exact next.goOn_hide shown
  | leave => rfl

end Scheduling

section Lifecycle

/-- An environment is allocated alike, in the same slot and with the same id. -/
theorem allocEnv_hide (shown : Set FrameNumber) (kernel : Kernel) (parent : EnvId) :
    (kernel.hide shown).allocEnv parent = Prod.map id (hide shown) (kernel.allocEnv parent) := by
  -- Slots run out alike, and so do frames for a directory.
  simp only [allocEnv, envs_hide, memory_hide, envAt_hide, Memory.createSpace_hide]
  split
  · rfl
  · obtain ⟨result, memory⟩ := kernel.memory.createSpace
    cases result <;> rfl

/-- A slot is freed alike. -/
theorem freeEnv_hide (shown : Set FrameNumber) (kernel : Kernel) (slot : Slot) :
    (kernel.hide shown).freeEnv slot = (kernel.freeEnv slot).hide shown := by
  -- Taking the space out of use first changes nothing about what is shown.
  have unused : (if kernel.current = some slot then (kernel.memory.hide shown).activate none
      else kernel.memory.hide shown) =
      (if kernel.current = some slot then kernel.memory.activate none
        else kernel.memory).hide shown := by
    split <;> rfl
  simp only [freeEnv, envAt_hide, current_hide, memory_hide, unused]
  split
  · simp only [Memory.destroySpace_hide]
    rfl
  · rfl

/-- An environment is destroyed alike, and the same one runs next. -/
theorem destroyEnv_hide (shown : Set FrameNumber) (kernel : Kernel) (slot : Slot) :
    (kernel.hide shown).destroyEnv slot = Prod.map id (hide shown) (kernel.destroyEnv slot) := by
  -- Whether another one is to be chosen depends on who owned the processor.
  have unowned : { (kernel.freeEnv slot).hide shown with current := none } =
      ({ kernel.freeEnv slot with current := none } : Kernel).hide shown := rfl
  simp only [destroyEnv, freeEnv_hide, current_hide, unowned, reschedule_hide]
  generalize ({ kernel.freeEnv slot with current := none } : Kernel).reschedule = outcome
  split <;> rfl

end Lifecycle

section Calls

/-- The word for the caller is set alike. -/
theorem withResult_hide (shown : Set FrameNumber) (kernel : Kernel) (value : Word) :
    (kernel.hide shown).withResult value = (kernel.withResult value).hide shown := by
  -- It stands in a register, and no register is hidden.
  simp only [withResult, current_hide]
  split <;> rfl

/-- The answer to a destruction is alike. -/
theorem answerDestroy_hide (shown : Set FrameNumber) (outcome : Control Unit × Kernel)
    (value : Word) : answerDestroy (Prod.map id (hide shown) outcome) value =
      Prod.map id (hide shown) (answerDestroy outcome value) := by
  -- There is an answer only if the caller is still there.
  obtain ⟨control, next⟩ := outcome
  cases control <;> rfl

/-- The console gets the bytes of the caller's own memory. -/
theorem writeConsole_hide (shows : kernel.Shows shown) (va length : Word) :
    (kernel.hide shown).writeConsole va length =
      Prod.map id (hide shown) (kernel.writeConsole va length) := by
  have caller : (kernel.hide shown).callerSpace = kernel.callerSpace := rfl
  simp only [writeConsole, caller, memory_hide, userCheck_hide, destroyEnv_hide, answerDestroy_hide]
  cases found : kernel.callerSpace with
  | error error => rfl
  | ok pair =>
    obtain ⟨slot, space⟩ := pair
    -- The space that is read from belongs to the owner of the processor.
    have visible : kernel.memory.Shows shown space := by
      simp only [callerSpace, Kernel.owner, spaceOf, bind, Except.bind, pure, Except.pure] at found
      cases owns : kernel.current with
      | none => simp [owns] at found
      | some owner =>
        cases held : (kernel.envAt owner).space with
        | none => simp [owns, held] at found
        | some handle =>
          simp only [owns, held, Except.ok.injEq, Prod.mk.injEq] at found
          exact found.2 ▸ shows owner handle owns held
    simp only [copyIn_hide visible]
    split
    · rfl
    · split <;> rfl

/-- The call that destroys an environment is answered alike. -/
theorem destroyCall_hide (shown : Set FrameNumber) (kernel : Kernel) (target : EnvId) :
    (kernel.hide shown).destroyCall target =
      Prod.map id (hide shown) (kernel.destroyCall target) := by
  -- The id names the same environment, or is refused for the same reason.
  simp only [destroyCall, findOwned_hide, destroyEnv_hide, answerDestroy_hide]
  split <;> rfl

/-- The call that makes a child is answered alike. -/
theorem fork_hide (shown : Set FrameNumber) (kernel : Kernel) :
    (kernel.hide shown).fork = Prod.map id (hide shown) kernel.fork := by
  -- Without a caller it is refused; otherwise it ends with the allocation or with the child's
  -- registers.
  simp only [fork, owner_hide, envAt_hide, allocEnv_hide]
  split
  · rfl
  · obtain ⟨result, next⟩ := kernel.allocEnv (kernel.envAt _).id
    cases result <;> rfl

/-- The call that sets a status is answered alike. -/
theorem setStatus_hide (shown : Set FrameNumber) (kernel : Kernel) (target : EnvId)
    (word : Word) : (kernel.hide shown).setStatus target word =
      Prod.map id (hide shown) (kernel.setStatus target word) := by
  -- Neither the status nor the id is looked up in memory.
  simp only [setStatus, findOwned_hide]
  split <;> rfl

/-- The call that registers a fault entry point is answered alike. -/
theorem setFaultEntry_hide (shown : Set FrameNumber) (kernel : Kernel) (target : EnvId)
    (entry : Address) : (kernel.hide shown).setFaultEntry target entry =
      Prod.map id (hide shown) (kernel.setFaultEntry target entry) := by
  -- The id alone decides, and the entry point is not looked at.
  simp only [setFaultEntry, findOwned_hide]
  split <;> rfl

/-- The call that allocates a page is answered alike. -/
theorem allocPage_hide (shown : Set FrameNumber) (kernel : Kernel) (request : AllocRequest) :
    (kernel.hide shown).allocPage request =
      Prod.map id (hide shown) (kernel.allocPage request) := by
  -- The request is judged without memory; only then a frame is taken and mapped.
  have resolved : (kernel.hide shown).resolveAlloc request = kernel.resolveAlloc request := rfl
  simp only [allocPage, resolved, memory_hide, mapFresh_hide]
  split <;> rfl

/-- The call that shares a page is answered alike. -/
theorem mapPage_hide (shown : Set FrameNumber) (kernel : Kernel) (request : MapRequest) :
    (kernel.hide shown).mapPage request = Prod.map id (hide shown) (kernel.mapPage request) := by
  -- The request is judged by page tables, which name frames but not their bytes.
  have resolved : (kernel.hide shown).resolveMap request = kernel.resolveMap request := rfl
  simp only [mapPage, resolved, memory_hide, PlannedMapping.apply_hide]
  split <;> rfl

/-- The call that unmaps a page is answered alike. -/
theorem unmapPage_hide (shown : Set FrameNumber) (kernel : Kernel) (request : UnmapRequest) :
    (kernel.hide shown).unmapPage request =
      Prod.map id (hide shown) (kernel.unmapPage request) := by
  -- The request is judged without memory; only then the page goes.
  have resolved : (kernel.hide shown).resolveUnmap request = kernel.resolveUnmap request := rfl
  simp only [unmapPage, resolved, memory_hide, unmap_hide]
  split <;> rfl

/-- The call that sends a message is answered alike. -/
theorem trySend_hide (shown : Set FrameNumber) (kernel : Kernel) (request : SendRequest) :
    (kernel.hide shown).trySend request = Prod.map id (hide shown) (kernel.trySend request) := by
  -- The request is judged by page tables alone; only placing its page takes a frame.
  have resolved : (kernel.hide shown).resolveSend request = kernel.resolveSend request := rfl
  have placed (delivery : Delivery) : delivery.placePage (kernel.hide shown).memory =
      Prod.map id (Memory.hide shown) (delivery.placePage kernel.memory) := by
    unfold Delivery.placePage
    split
    · rfl
    · exact PlannedMapping.replace_hide _ shown kernel.memory
  simp only [trySend, resolved, placed]
  split
  · rfl
  · rename_i delivery _
    obtain ⟨result, memory⟩ := delivery.placePage kernel.memory
    cases result <;> rfl

/-- The call that waits for a message is answered alike. -/
theorem receive_hide (shown : Set FrameNumber) (kernel : Kernel) (va : Address) :
    (kernel.hide shown).receive va = Prod.map id (hide shown) (kernel.receive va) := by
  -- The address for a page is judged, and then the caller's own slot is changed.
  simp only [receive, owner_hide]
  split <;> rfl

/-- A system call depends on no frame but those that its caller has mapped. -/
theorem perform_hide (shows : kernel.Shows shown) (call : Syscall) (words : Arguments) :
    (kernel.hide shown).perform call words =
      Prod.map id (hide shown) (kernel.perform call words) := by
  -- One case for each system call.
  cases call with
  | writeConsole => exact writeConsole_hide shows _ _
  | readConsole => rfl
  | currentEnv => rfl
  | destroyEnv => exact kernel.destroyCall_hide shown _
  | yield =>
    simp only [perform, yield, withResult_hide, reschedule_hide]
    generalize (kernel.withResult 0).reschedule = outcome
    rfl
  | fork => simp only [perform, fork_hide]; rfl
  | setStatus => simp only [perform, setStatus_hide]; rfl
  | allocPage => simp only [perform, allocPage_hide]; rfl
  | mapPage => simp only [perform, mapPage_hide]; rfl
  | unmapPage => simp only [perform, unmapPage_hide]; rfl
  | setFaultEntry => simp only [perform, setFaultEntry_hide]; rfl
  | receive => simp only [perform, receive_hide]; rfl
  | trySend => simp only [perform, trySend_hide]; rfl
  | time => rfl

end Calls

section Traps

/-- A system call is handled alike, up to the word that its caller gets. -/
theorem handleCall_hide (shows : kernel.Shows shown) (frame : TrapFrame) :
    (kernel.hide shown).handleCall frame =
      Prod.map id (hide shown) (kernel.handleCall frame) := by
  -- What is hidden goes through the call, and then through the answer.
  have carried : (kernel.hide shown).syscall frame.context.regs.eax
      (.ofRegisters frame.context.regs) = Prod.map id (hide shown)
        (kernel.syscall frame.context.regs.eax (.ofRegisters frame.context.regs)) := by
    simp only [syscall, perform_hide shows]
    split <;> rfl
  simp only [handleCall, carried]
  obtain ⟨control, next⟩ := kernel.syscall frame.context.regs.eax (.ofRegisters frame.context.regs)
  cases control with
  | stay value => exact Prod.ext rfl (next.withResult_hide shown value)
  | leave decision => rfl

/-- The record of a fault goes to the environment's own memory. -/
theorem handleFault_hide (shows : kernel.Shows shown) (owns : kernel.current = some owner)
    (frame : TrapFrame) (address : Address) :
    (kernel.hide shown).handleFault owner frame address =
      Prod.map id (hide shown) (kernel.handleFault owner frame address) := by
  have planned : (kernel.hide shown).planFault owner frame = kernel.planFault owner frame := by
    simp only [planFault, envAt_hide, memory_hide, userCheck_hide]
  simp only [handleFault, planned, destroyEnv_hide, memory_hide]
  cases plan : kernel.planFault owner frame with
  | none => rfl
  | some delivery =>
    -- The record is written where the environment has mapped a page itself.
    have visible : kernel.memory.Shows shown delivery.space :=
      shows owner delivery.space owns (planFault_some plan).1
    simp only [copyOut_hide visible]
    obtain ⟨result, memory⟩ := kernel.memory.copyOut delivery.space delivery.recordAt
      (FaultRecord.ofFrame frame address).encode
    cases result with
    | error bad => exact destroyEnv_hide shown { kernel with memory } owner
    | ok =>
      have entered := run_hide shown ({ kernel with memory }.modifyEnv owner delivery.enter) owner
      exact congrArg (fun outcome => (Control.leave outcome.1, outcome.2)) entered

/-- How a trap is handled depends on no frame but those that the environment has mapped. -/
theorem handleTrap_hide (shows : kernel.Shows shown) {origin : Option Slot}
    (owns : ∀ slot, origin = some slot → kernel.current = some slot) (frame : TrapFrame)
    (address : Address) : (kernel.hide shown).handleTrap origin frame address =
      Prod.map id (hide shown) (kernel.handleTrap origin frame address) := by
  have ticked : { kernel.hide shown with clock := (kernel.hide shown).clock.tick } =
      ({ kernel with clock := kernel.clock.tick } : Kernel).hide shown := rfl
  unfold handleTrap
  -- One case for each kind of trap and origin.
  split
  · exact handleFault_hide shows (owns _ rfl) frame address
  · rfl
  · rfl
  · exact handleCall_hide shows frame
  · rw [ticked, reschedule_hide]
    generalize ({ kernel with clock := kernel.clock.tick } : Kernel).reschedule = outcome
    rfl
  · rfl
  · exact kernel.destroyEnv_hide shown _
  · rfl
  · rfl

/-- A trap depends on no frame but those that the owner of the processor has mapped. -/
theorem trap_hide (shows : kernel.Shows shown) (frame : TrapFrame) (address : Address) :
    (kernel.hide shown).trap frame address =
      Prod.map id (hide shown) (kernel.trap frame address) := by
  by_cases user : frame.fromUser = true
  · cases owns : kernel.current with
    | none =>
      have unowned : (kernel.hide shown).current = none := owns
      rw [trap_unowned user owns, trap_unowned user unowned]
      rfl
    | some owner =>
      have hiddenOwns : (kernel.hide shown).current = some owner := owns
      have saved : (kernel.hide shown).saved owner frame = (kernel.saved owner frame).hide shown :=
        rfl
      -- Saving the registers moves nobody to another space.
      have visible : (kernel.saved owner frame).Shows shown := by
        intro slot space current held
        refine shows slot space current ?_
        rw [envAt_saved] at held
        split at held
        · rename_i here
          exact here ▸ held
        · exact held
      rw [trap_fromUser user owns, trap_fromUser user hiddenOwns, saved,
        handleTrap_hide visible fun slot same => owns.trans same, conclude_hide]
  · rw [trap_fromKernel user, trap_fromKernel user, handleTrap_hide shows (by simp), conclude_hide]

end Traps

end Kernel

end Exokernel
