import Exokernel.Proofs.Kernel.Authority
import Exokernel.Proofs.Kernel.FaultDelivery
import Exokernel.Proofs.Kernel.UserBuffers
import Exokernel.Proofs.Memory.Reclaim

/-! Which environments are destroyed, and that everything they had can be used again. -/

namespace Exokernel

/-- Which space is in use has no part in what a space gives back. -/
theorem Memory.Reclaims.setActive {memory next : Memory} {handle : SpaceHandle} {table : PageTable}
    (reclaims : memory.Reclaims next handle table) (before after : Option SpaceHandle) :
    ({ memory with active := before } : Memory).Reclaims { next with active := after } handle
      table :=
  ⟨reclaims.tables, reclaims.own, reclaims.refs, reclaims.free, reclaims.freeCount,
    reclaims.page_eq⟩

/-- Exceptions of the processor and interrupts of devices that nothing serves. -/
def TrapVector.unserved : List Word :=
  -- Page faults, breakpoints, system calls and the two lines in use are left out.
  [divide, nonMaskable, overflow, bounds, invalidOpcode, deviceMissing, doubleFault, taskSegment,
    segmentMissing, stackFault, generalProtection, floatingPoint, alignment, machineCheck,
    vectorFloatingPoint, irqBase + keyboardLine, irqBase + serialLine]

/-- The kernel does not expect any of them. -/
theorem TrapKind.ofVector_of_unserved {vector : Word} (unserved : vector ∈ TrapVector.unserved) :
    ofVector vector = .unexpected := by
  -- Vectors are words, of which there are too many to try; only those listed are looked at.
  have checked : (TrapVector.unserved.all fun vector =>
      decide (ofVector vector = .unexpected)) = true := by
    decide
  exact of_decide_eq_true (List.all_eq_true.mp checked vector unserved)

namespace Kernel

variable {kernel acted : Kernel} {slot owner : Slot} {frame : TrapFrame} {words : Arguments}
  {address : Address} {event : KernelEvent} {outcome : Dispatch × Kernel}

/-- Why an event is the end of the environment in a slot. -/
inductive Condemned (kernel : Kernel) (slot : Slot) (event : KernelEvent) : Prop where
  /-- It asks for its own end, or its parent does. -/
  | call {caller : Slot} {frame : TrapFrame} {words : Arguments}
      (asks : kernel.Asks event caller frame .destroyEnv words)
      (named : kernel.owned? caller ⟨words.first⟩ = some slot)
  /-- It raises a page fault that it cannot handle. -/
  | fault {frame : TrapFrame} {address : Address} (event_eq : event = .trap frame address)
      (user : frame.fromUser = true) (owns : kernel.current = some slot)
      (kind : TrapKind.ofVector frame.vector = .pageFault)
      (cannot : ∀ delivery : FaultDelivery,
        delivery.recordAt = recordAddress frame.context.esp → ¬kernel.CanHandle slot delivery)
  /-- It asks for memory to be printed that does not pass the kernel's check. -/
  | print {frame : TrapFrame} {words : Arguments} {space : SpaceHandle} {bad : Address}
      (asks : kernel.Asks event slot frame .writeConsole words)
      (held : (kernel.envAt slot).space = some space)
      (refused : kernel.memory.userCheck space words.first words.second (.present ||| .user) =
        .error bad)
  /-- It raises an exception that nothing handles. -/
  | unexpected {frame : TrapFrame} {address : Address} (event_eq : event = .trap frame address)
      (user : frame.fromUser = true) (owns : kernel.current = some slot)
      (kind : TrapKind.ofVector frame.vector = .unexpected)

/-- Whoever raises an exception that nothing serves is condemned. -/
theorem condemned_of_unserved (owns : kernel.current = some slot) (user : frame.fromUser = true)
    (raised : frame.vector ∈ TrapVector.unserved) (address : Address) :
    kernel.Condemned slot (.trap frame address) :=
  .unexpected rfl user owns (TrapKind.ofVector_of_unserved raised)

/-- The environment in a slot is gone, and what it had can be used again. -/
structure Reclaims (kernel next : Kernel) (slot : Slot) : Prop where
  /-- Its space gave back everything that it held. -/
  memory : ∃ space table, (kernel.envAt slot).space = some space ∧
    kernel.memory.table? space = some table ∧ kernel.memory.Reclaims next.memory space table
  /-- Its slot is the first of the free ones. -/
  free_eq : next.envs.free = slot :: kernel.envs.free
  /-- The next environment to be created gets the slot. -/
  reused : ∀ parent made space last, next.allocEnv parent = (.ok (made, space), last) →
    made = slot

/-- An event has freed a slot, with the registers of the running environment saved before. -/
def Frees (kernel : Kernel) (slot : Slot) (outcome : Dispatch × Kernel) : Prop :=
  -- Between freeing and giving the processor away there is at most an answer.
  ∃ (owner : Slot) (frame : TrapFrame) (freed : Kernel) (answer : Option Word),
    freed.memory = ((kernel.saved owner frame).freeEnv slot).memory ∧
    freed.envs = ((kernel.saved owner frame).freeEnv slot).envs ∧
    (freed.answered answer).Ends outcome

/-- The answer to a system call changes neither memory nor the free slots. -/
theorem rest_answered (kernel : Kernel) (answer : Option Word) :
    (kernel.answered answer).memory = kernel.memory ∧
      (kernel.answered answer).envs.free = kernel.envs.free := by
  -- An answer changes a register of one environment, or nothing.
  rcases kernel.answered_cases answer with same | ⟨owner, value, -, same⟩ <;>
    rw [same] <;> exact ⟨rfl, rfl⟩

/-- The end of a kernel entry changes neither a frame nor a mapping, nor who exists. -/
theorem Ends.rest_eq (ends : kernel.Ends outcome) :
    outcome.2.memory = { kernel.memory with active := outcome.2.memory.active } ∧
      outcome.2.envs.free = kernel.envs.free := by
  -- However an entry ends, it may put another space in use, and no more.
  cases ends <;> exact ⟨rfl, rfl⟩

/-- A slot that was freed is vacant, and all that its environment had was given back. -/
theorem Settled.reclaims (settled : kernel.Settled) (live : (kernel.envAt slot).isLive = true)
    (frees : kernel.Frees slot outcome) :
    (outcome.2.envAt slot).isLive = false ∧ kernel.Reclaims outcome.2 slot := by
  obtain ⟨owner, frame, freed, answer, freed_memory, freed_envs, ends⟩ := frees
  obtain ⟨space, held, exists_⟩ := settled.owns slot live
  obtain ⟨table, found⟩ := Option.isSome_iff_exists.mp exists_
  have savedHeld : ((kernel.saved owner frame).envAt slot).space = some space :=
    (space_of_profile (kernel.profile_saved owner frame) slot).trans held
  have status :=
    (SameMail.ends ends slot).live_eq.trans (SameMail.answered freed answer slot).live_eq
  obtain ⟨memory_eq, free_eq⟩ := ends.rest_eq
  obtain ⟨answered_memory, answered_free⟩ := freed.rest_answered answer
  -- The slot is first on the list of free ones, and so the next to be taken.
  have vacant : outcome.2.envs.free = slot :: kernel.envs.free := by
    rw [free_eq, answered_free, freed_envs]
    rfl
  refine ⟨?_, ⟨space, table, held, found, ?_⟩, vacant, ?_⟩
  · rw [status, envAt, freed_envs]
    exact congrArg Env.isLive ((envAt_freeEnv _ slot slot).trans (if_pos rfl))
  · -- The space may have been switched off before, which makes no difference to what it held.
    have given : ∀ active, kernel.memory.Reclaims
        { ((kernel.memory.activate active).destroySpace space).2 with
          active := outcome.2.memory.active } space table := fun active =>
      ((settled.memory.activate active).reclaims_destroySpace found).setActive
        kernel.memory.active _
    rw [memory_eq, answered_memory, freed_memory, memory_freeEnv savedHeld]
    split
    · exact given none
    · exact given kernel.memory.active
  · intro parent made fresh last allocated
    obtain ⟨rest, -, listed, -⟩ := allocEnv_ok allocated
    rw [vacant, List.cons.injEq] at listed
    exact listed.1.symm

section Traps

variable (user : frame.fromUser = true) (owns : kernel.current = some owner)
include user owns

/-- An exception that nothing handles frees its environment, and another one is chosen. -/
theorem trap_unexpected (kind : TrapKind.ofVector frame.vector = .unexpected) (address : Address) :
    kernel.trap frame address =
      { (kernel.saved owner frame).freeEnv owner with current := none }.reschedule := by
  -- The owner's registers are saved before it is destroyed.
  have savedOwns : (kernel.saved owner frame).current = some owner := owns
  rw [trap_fromUser user owns]
  unfold handleTrap
  simp only [kind, destroyEnv_owner savedOwns, conclude]

/-- So does a page fault that the environment cannot handle. -/
theorem trap_unplanned (kind : TrapKind.ofVector frame.vector = .pageFault)
    (unplanned : (kernel.saved owner frame).planFault owner frame = none) (address : Address) :
    kernel.trap frame address =
      { (kernel.saved owner frame).freeEnv owner with current := none }.reschedule := by
  have savedOwns : (kernel.saved owner frame).current = some owner := owns
  -- The destruction is decided before the fault is recorded.
  rw [trap_fromUser user owns]
  unfold handleTrap
  simp only [kind]
  rw [handleFault_of_unplanned savedOwns unplanned, goOn_of_current_none rfl]

/-- So does a request to print memory that does not pass the check. -/
theorem trap_unprintable (request : frame.Requests .writeConsole words) {space : SpaceHandle}
    {bad : Address} (held : (kernel.envAt owner).space = some space)
    (refused : kernel.memory.userCheck space words.first words.second (.present ||| .user) =
      .error bad) (address : Address) :
    kernel.trap frame address =
      { (kernel.saved owner frame).freeEnv owner with current := none }.reschedule := by
  -- The check that fails is the one on the saved kernel, which has the same space.
  have savedOwns : (kernel.saved owner frame).current = some owner := owns
  have savedHeld := (space_of_profile (kernel.profile_saved owner frame) owner).trans held
  rw [trap_request_leave user owns request address
    (writeConsole_of_error savedOwns savedHeld refused)]

/-- A request to destroy an environment frees the one that it names. -/
theorem trap_destroyEnv (request : frame.Requests .destroyEnv words)
    (named : kernel.owned? owner ⟨words.first⟩ = some slot) (address : Address) :
    kernel.trap frame address =
      if slot = owner then
        { (kernel.saved owner frame).freeEnv owner with current := none }.reschedule
      else (((kernel.saved owner frame).freeEnv slot).withResult 0).goOn := by
  have savedOwns : (kernel.saved owner frame).current = some owner := owns
  rw [← owned?_of_profile (kernel.profile_saved owner frame), ← findOwned_eq_ok savedOwns] at named
  have performed : (kernel.saved owner frame).perform .destroyEnv words =
      answerDestroy ((kernel.saved owner frame).destroyEnv slot) 0 := by
    simp only [perform, destroyCall, named]
  -- Whoever destroys itself leaves the processor to the next one.
  split
  · rename_i self
    rw [self, destroyEnv_owner savedOwns, answerDestroy] at performed
    rw [trap_request_leave user owns request address performed]
  · rename_i other
    rw [destroyEnv_other savedOwns other, answerDestroy] at performed
    rw [trap_request user owns request address performed]

end Traps

/-- A fault that cannot be handled is not planned to be delivered, once the registers are saved. -/
theorem planFault_saved_eq_none (cannot : ∀ delivery : FaultDelivery,
    delivery.recordAt = recordAddress frame.context.esp → ¬kernel.CanHandle owner delivery) :
    (kernel.saved owner frame).planFault owner frame = none := by
  -- Any plan would say that the fault can be handled.
  refine Option.eq_none_iff_forall_ne_some.mpr fun delivery planned => ?_
  obtain ⟨can, placed⟩ := planFault_eq_some.mp planned
  exact cannot delivery placed (canHandle_saved.mp can)

/-- Whoever frees its own slot leaves the processor to another environment. -/
theorem frees_self (kernel : Kernel) (owner : Slot) (frame : TrapFrame) : kernel.Frees owner
    { (kernel.saved owner frame).freeEnv owner with current := none }.reschedule :=
  ⟨owner, frame, { (kernel.saved owner frame).freeEnv owner with current := none }, none, rfl, rfl,
    ends_reschedule _⟩

/-- An environment that is condemned is freed. -/
theorem frees_of_condemned (condemned : kernel.Condemned slot (.trap frame address)) :
    kernel.Frees slot (kernel.trap frame address) := by
  -- In all cases but one it is the running environment that is freed, and another is chosen.
  cases condemned with
  | call asks named =>
    rename_i caller asked words
    obtain ⟨_, event_eq⟩ := asks.event_eq
    simp only [KernelEvent.trap.injEq] at event_eq
    obtain ⟨rfl, -⟩ := event_eq
    -- Whoever destroys itself gives the processor away; a parent goes on.
    rw [trap_destroyEnv asks.user asks.owns asks.request named]
    split
    · rename_i self
      rw [self]
      exact kernel.frees_self caller frame
    · exact ⟨caller, frame, (kernel.saved caller frame).freeEnv slot, some 0, rfl, rfl, ends_goOn _⟩
  | fault event_eq user owns kind cannot =>
    simp only [KernelEvent.trap.injEq] at event_eq
    obtain ⟨rfl, -⟩ := event_eq
    rw [trap_unplanned user owns kind (planFault_saved_eq_none cannot)]
    exact kernel.frees_self slot frame
  | print asks held refused =>
    obtain ⟨_, event_eq⟩ := asks.event_eq
    simp only [KernelEvent.trap.injEq] at event_eq
    obtain ⟨rfl, -⟩ := event_eq
    rw [trap_unprintable asks.user asks.owns asks.request held refused]
    exact kernel.frees_self slot frame
  | unexpected event_eq user owns kind =>
    simp only [KernelEvent.trap.injEq] at event_eq
    obtain ⟨rfl, -⟩ := event_eq
    rw [trap_unexpected user owns kind]
    exact kernel.frees_self slot frame

section Survival

-- An environment that existed before.
variable (live : (kernel.envAt slot).isLive = true)
include live

/-- A change of an environment that exists leaves it in existence, and all others. -/
theorem isLive_modifyEnv {changed : Slot} {change : Env → Env}
    (alive : (change (kernel.envAt changed)).isLive = true) :
    ((kernel.modifyEnv changed change).envAt slot).isLive = true := by
  -- The slot is the one that was changed, or another one.
  rw [envAt_modifyEnv]
  split
  · exact alive
  · exact live

/-- When one environment is freed, the others stay. -/
theorem isLive_freeEnv {gone : Slot} (other : slot ≠ gone) :
    ((kernel.freeEnv gone).envAt slot).isLive = true := by
  -- Only the slot that was freed is vacated.
  rw [envAt_freeEnv, if_neg other]
  exact live

/-- Of the calls that are answered, only one that destroys a child is the end of somebody. -/
theorem Consistent.survives_effect (consistent : kernel.Consistent) {value : Word}
    (effect : Effect kernel owner frame address acted (some value))
    (other : ∀ words, frame.Requests .destroyEnv words →
      kernel.findOwned ⟨words.first⟩ ≠ .ok slot) : (acted.envAt slot).isLive = true := by
  -- One case for each thing that can become of the environment; only two would end it.
  cases consistent.slotEffect effect slot with
  | kept same => rw [same, live]
  | exited _ unanswered => simp at unanswered
  | destroyed request found => exact absurd found (other _ request)
  | statusSet request settable found set =>
    rw [set]
    rcases settableStatus_ok settable with rfl | rfl <;> rfl
  | faulted _ changed | entrySet _ _ changed =>
    rw [changed]
    exact live
  | waits _ _ _ changed | filled _ _ _ _ changed =>
    rw [changed]
    rfl
  | born _ dead => simp [live] at dead

end Survival

/-- A frame asks for one call. -/
theorem call_eq_of_requests {first second : Syscall} {others : Arguments}
    (request : frame.Requests first words) (same : frame.Requests second others) :
    first = second :=
  Except.ok.inj (request.number.symm.trans same.number)

/-- All calls but three are answered at once. -/
theorem perform_stays (kernel : Kernel) {call : Syscall} (words : Arguments)
    (writes : call ≠ .writeConsole) (destroys : call ≠ .destroyEnv) (yields : call ≠ .yield) :
    ∃ value acted, kernel.perform call words = (.stay value, acted) := by
  -- These three are excluded, and each of the others ends with an answer.
  cases call with
  | writeConsole => exact absurd rfl writes
  | destroyEnv => exact absurd rfl destroys
  | yield => exact absurd rfl yields
  | _ => exact ⟨_, _, rfl⟩

/-- Whoever is there when a system call is answered stays there. -/
theorem isLive_answered (user : frame.fromUser = true) (owns : kernel.current = some owner)
    {call : Syscall} {value : Word} {acted : Kernel} (request : frame.Requests call words)
    (performed : (kernel.saved owner frame).perform call words = (.stay value, acted))
    (stays : (acted.envAt slot).isLive = true) :
    ((kernel.trap frame address).2.envAt slot).isLive = true := by
  -- Neither the answer nor the end of the entry changes who exists.
  rw [trap_request user owns request address performed]
  exact ((SameMail.answered acted (some value) slot).trans
    (.ends (ends_goOn _) slot)).live_eq.trans stays

section Spared

-- An environment that exists, and that the trap of the running one does not condemn.
variable (settled : kernel.Settled) (user : frame.fromUser = true)
  (owns : kernel.current = some owner) (live : (kernel.envAt slot).isLive = true)
  (spared : ¬kernel.Condemned slot (.trap frame address))

include live

/-- It stays when the running one goes. -/
theorem isLive_exit (other : slot ≠ owner) :
    (({ (kernel.saved owner frame).freeEnv owner with current := none }.reschedule).2.envAt
      slot).isLive = true := by
  -- The choice of the next environment is not the end of anybody.
  refine (SameMail.ends (ends_reschedule _) slot).live_eq.trans ?_
  exact isLive_freeEnv ((SameMail.saved kernel owner frame slot).live_eq.trans live) other

include settled user owns spared

/-- It stays when text is printed, since it did not offer a bad range itself. -/
theorem Settled.survives_writeConsole (request : frame.Requests .writeConsole words) :
    ((kernel.trap frame address).2.envAt slot).isLive = true := by
  obtain ⟨-, savedOwns, -⟩ := settled.saved user owns
  have savedLive := (SameMail.saved kernel owner frame slot).live_eq.trans live
  obtain ⟨space, held, -⟩ := settled.owns owner (settled.running owner owns).1
  have savedHeld := (space_of_profile (kernel.profile_saved owner frame) owner).trans held
  cases checked : kernel.memory.userCheck space words.first words.second (.present ||| .user) with
  | error bad =>
    have asks : kernel.Asks (.trap frame address) owner frame .writeConsole words :=
      ⟨⟨address, rfl⟩, user, owns, request⟩
    -- Only the owner of the processor ends by printing, and it is condemned then.
    rw [trap_unprintable user owns request held checked]
    refine isLive_exit live fun self => spared ?_
    exact .print (self ▸ asks) (self ▸ held) checked
  | ok =>
    cases read : kernel.memory.copyIn space words.first words.second.toNat with
    | error bad =>
      exact isLive_answered user owns request
        (writeConsole_of_unreadable savedOwns savedHeld checked read) savedLive
    | ok bytes =>
      exact isLive_answered user owns request
        (writeConsole_of_ok savedOwns savedHeld checked read) savedLive

/-- It stays when somebody is destroyed, who must be somebody else. -/
theorem Settled.survives_destroyCall (request : frame.Requests .destroyEnv words) :
    ((kernel.trap frame address).2.envAt slot).isLive = true := by
  obtain ⟨-, savedOwns, -⟩ := settled.saved user owns
  have savedLive := (SameMail.saved kernel owner frame slot).live_eq.trans live
  cases named : kernel.owned? owner ⟨words.first⟩ with
  | none =>
    -- Whoever names nobody that it may destroy gets an error.
    have refused := findOwned_eq savedOwns ⟨words.first⟩
    rw [owned?_of_profile (kernel.profile_saved owner frame), named] at refused
    have performed : (kernel.saved owner frame).perform .destroyEnv words =
        (.stay SysError.badEnv.toWord, kernel.saved owner frame) := by
      simp only [perform, destroyCall, refused]
    exact isLive_answered user owns request performed savedLive
  | some target =>
    have asks : kernel.Asks (.trap frame address) owner frame .destroyEnv words :=
      ⟨⟨address, rfl⟩, user, owns, request⟩
    have other : slot ≠ target := by
      rintro rfl
      exact spared (.call asks named)
    rw [trap_destroyEnv user owns request named]
    split
    · rename_i self
      exact isLive_exit live (self ▸ other)
    · exact ((SameMail.answered _ (some 0) slot).trans
        (.ends (ends_goOn _) slot)).live_eq.trans (isLive_freeEnv savedLive other)

omit settled spared in
/-- It stays when the processor is yielded. -/
theorem survives_yield (request : frame.Requests .yield words) :
    ((kernel.trap frame address).2.envAt slot).isLive = true := by
  have savedLive := (SameMail.saved kernel owner frame slot).live_eq.trans live
  -- The caller is answered first, and then the next environment is chosen.
  have performed : (kernel.saved owner frame).perform .yield words =
      (.leave ((kernel.saved owner frame).answered (some 0)).reschedule.1,
        ((kernel.saved owner frame).answered (some 0)).reschedule.2) := by
    simp only [perform, Kernel.yield, Kernel.answered]
  have ends := ends_reschedule ((kernel.saved owner frame).answered (some 0))
  rw [trap_request_leave user owns request address performed]
  dsimp only
  exact ((SameMail.answered (kernel.saved owner frame) (some 0) slot).trans
    (.ends ends slot)).live_eq.trans savedLive

/-- It stays when a system call is carried out. -/
theorem Settled.survives_call {call : Syscall} (request : frame.Requests call words) :
    ((kernel.trap frame address).2.envAt slot).isLive = true := by
  -- Printing, destroying and yielding may take the processor away; the others are answered.
  by_cases writes : call = .writeConsole
  · exact settled.survives_writeConsole user owns live spared (writes ▸ request)
  by_cases destroys : call = .destroyEnv
  · exact settled.survives_destroyCall user owns live spared (destroys ▸ request)
  by_cases yields : call = .yield
  · exact survives_yield user owns live (yields ▸ request)
  obtain ⟨consistent, savedOwns, -⟩ := settled.saved user owns
  have savedLive := (SameMail.saved kernel owner frame slot).live_eq.trans live
  -- The others have one effect each, and none of them ends anybody.
  obtain ⟨value, acted, performed⟩ :=
    (kernel.saved owner frame).perform_stays words writes destroys yields
  have completes : Completes (kernel.saved owner frame) owner frame address
      ((kernel.saved owner frame).perform call words) := completes_perform savedOwns request
  refine isLive_answered user owns request performed ?_
  rw [performed] at completes
  cases completes with
  | answer effect =>
    exact consistent.survives_effect savedLive effect fun others same _ =>
      destroys (call_eq_of_requests request same)

/-- It stays, whatever trap the running environment takes. -/
theorem Settled.survives : ((kernel.trap frame address).2.envAt slot).isLive = true := by
  -- One case for each kind of trap; two of them may end the running environment.
  obtain ⟨-, savedOwns, ready⟩ := settled.saved user owns
  have savedLive := (SameMail.saved kernel owner frame slot).live_eq.trans live
  cases kind : TrapKind.ofVector frame.vector with
  | pageFault =>
    cases planned : (kernel.saved owner frame).planFault owner frame with
    | none =>
      rw [trap_unplanned user owns kind planned]
      refine isLive_exit live fun self => spared ?_
      -- A fault that cannot be handled condemns the owner.
      refine .fault rfl user (self ▸ owns) kind fun delivery placed can => ?_
      rw [self] at can
      rw [planFault_eq_some.mpr ⟨canHandle_saved.mpr can, placed⟩] at planned
      simp at planned
    | some delivery =>
      obtain ⟨memory, recorded⟩ := copyOut_planFault planned (.ofFrame frame address)
      rw [trap_fromUser user owns]
      unfold handleTrap
      simp only [kind]
      rw [handleFault_of_planned savedOwns ready planned recorded]
      refine (SameMail.ends (ends_goOn _) slot).live_eq.trans (isLive_modifyEnv ?_ ?_)
      · exact savedLive
      · exact Env.isLive_of_isRunnable ready
  | breakpoint =>
    rw [trap_fromUser user owns]
    unfold handleTrap
    simp only [kind, conclude]
    exact (SameMail.ends (ends_goOn _) slot).live_eq.trans savedLive
  | systemCall =>
    cases number : Syscall.decode frame.context.regs.eax with
    | error error =>
      -- A number that names no call gets an error.
      have called : (kernel.saved owner frame).syscall frame.context.regs.eax
          (.ofRegisters frame.context.regs) = (.stay error.toWord, kernel.saved owner frame) := by
        simp only [syscall, number]
      rw [trap_syscall user owns kind address called]
      exact ((SameMail.answered _ (some error.toWord) slot).trans
        (.ends (ends_goOn _) slot)).live_eq.trans savedLive
    | ok call => exact settled.survives_call user owns live spared ⟨kind, number, rfl⟩
  | timer =>
    rw [trap_timer user owns kind]
    exact (SameMail.ends (ends_reschedule _) slot).live_eq.trans savedLive
  | spurious =>
    rw [trap_spurious user owns kind]
    exact (SameMail.ends (ends_goOn _) slot).live_eq.trans savedLive
  | unexpected =>
    rw [trap_unexpected user owns kind]
    exact isLive_exit live fun self => spared (.unexpected rfl user (self ▸ owns) kind)

end Spared

variable (settled : kernel.Settled)
include settled

/-- Only traps of the running environment are the end of an environment. -/
theorem Settled.survives_step (live : (kernel.envAt slot).isLive = true)
    (spared : ¬kernel.Condemned slot event) : ((kernel.step event).envAt slot).isLive = true := by
  -- One case for each kind of event; those left out concern no environment.
  cases event with
  | create image =>
    rw [Kernel.step, (settled.toConsistent.createEnv_outside image).2 slot live]
    exact live
  | trap frame address =>
    cases settled.trapCourse frame address with
    | outside unowned undisturbed =>
      exact (SameMail.of_undisturbed undisturbed slot).live_eq.trans live
    | owned user current => exact settled.survives user current live spared
  | reschedule => exact (SameMail.ends kernel.ends_reschedule slot).live_eq.trans live
  | _ => exact live

/-- An environment that is condemned is gone after the event, and leaves nothing behind. -/
theorem Settled.reclaims_step (live : (kernel.envAt slot).isLive = true)
    (condemned : kernel.Condemned slot event) :
    ((kernel.step event).envAt slot).isLive = false ∧ kernel.Reclaims (kernel.step event) slot := by
  -- Every sentence is passed in a trap.
  obtain ⟨frame, address, rfl⟩ : ∃ frame address, event = .trap frame address := by
    cases condemned with
    | call asks =>
      obtain ⟨address, event_eq⟩ := asks.event_eq
      exact ⟨_, address, event_eq⟩
    | fault event_eq => exact ⟨_, _, event_eq⟩
    | print asks =>
      obtain ⟨address, event_eq⟩ := asks.event_eq
      exact ⟨_, address, event_eq⟩
    | unexpected event_eq => exact ⟨_, _, event_eq⟩
  exact settled.reclaims live (frees_of_condemned condemned)

omit settled in
/--
An environment is destroyed by its own call or its parent's, or because it cannot go on, and by
nothing else. Whichever it is, everything that it had can be used again: its frames, except those
that others map, and its slot before all others.
-/
theorem destroyed_after (config : Config) (events : List KernelEvent) (event : KernelEvent)
    (slot : Slot) (live : ((after config events).envAt slot).isLive = true) :
    ((((after config events).step event).envAt slot).isLive = false ↔
      (after config events).Condemned slot event) ∧
    ((after config events).Condemned slot event →
      (after config events).Reclaims ((after config events).step event) slot) := by
  have settled := settled_after config events
  refine ⟨⟨fun gone => ?_, fun condemned => (settled.reclaims_step live condemned).1⟩,
    fun condemned => (settled.reclaims_step live condemned).2⟩
  -- One that is not condemned survives the event, so that one that is gone was condemned.
  by_contra spared
  rw [settled.survives_step live spared] at gone
  simp at gone

/--
A program gives its text to a child, which may run now, and has mapped its only stack page a second
time.
-/
def sharedTwice : List KernelEvent :=
  -- The first environment is the one that is never run.
  [.create ⟨0, []⟩, .create ⟨textStart, [⟨textStart, [195], 1, false⟩]⟩, .reschedule,
    callEvent .fork {}, callEvent .mapPage ⟨0, textStart, 4098, textStart, 5⟩,
    callEvent .mapPage ⟨0, stackTop - pageSize, 0, scratchStart, 7⟩,
    callEvent .setStatus { first := 4098, second := Status.runnable.toWord }]

omit settled in
/--
The program divides by zero and is destroyed. Its stack is free now, and listed once; its text has
one reference less and stays with the child.
-/
theorem destroyed_sharedTwice :
    let kernel := after { frames := 16 } sharedTwice
    let event := KernelEvent.trap { TrapFrame.initial with vector := TrapVector.divide } 0
    (kernel.envAt (slotAt 1)).isLive = true ∧ kernel.Condemned (slotAt 1) event ∧
      kernel.Reclaims (kernel.step event) (slotAt 1) ∧
      (kernel.memory.pool.refs 4 = 2 ∧ kernel.memory.pool.refs 6 = 2) ∧
      (kernel.step event).memory.pool.refs 4 = 1 ∧
      (kernel.step event).memory.pool.free = [3, 7, 5, 10, 6, 11, 12, 13, 14, 15] := by
  intro kernel event
  have live : (kernel.envAt (slotAt 1)).isLive = true := by decide +kernel
  have condemned : kernel.Condemned (slotAt 1) event :=
    condemned_of_unserved (by decide +kernel) (by decide) (by decide) 0
  have shared : kernel.memory.pool.refs 4 = 2 ∧ kernel.memory.pool.refs 6 = 2 := by
    decide +kernel
  -- What is left is counted on this very machine.
  have left : (kernel.step event).memory.pool.refs 4 = 1 ∧
      (kernel.step event).memory.pool.free = [3, 7, 5, 10, 6, 11, 12, 13, 14, 15] := by
    decide +kernel
  exact ⟨live, condemned, (destroyed_after _ _ event (slotAt 1) live).2 condemned, shared, left⟩

end Kernel

end Exokernel
