import Exokernel.Proofs.Abi.FaultRecord
import Exokernel.Proofs.Kernel.Removal
import Exokernel.Proofs.Kernel.Trap
import Exokernel.Proofs.Memory.Bytes
import Exokernel.Proofs.Traps

/-! Page faults: which of them an environment gets to handle, and what it finds when it does. -/

namespace Exokernel

namespace Memory

variable {memory : Memory} {handle : SpaceHandle} {flags : PageFlags}

/-- The page of an address passes the check exactly if the address is permitted. -/
theorem userCheck_page_iff (va : Address) :
    memory.userCheck handle (pageBase va) pageSize flags = .ok () ↔
      memory.Permits handle flags va := by
  have count : addressCount = 4294967296 := rfl
  have base := toNat_pageBase va
  by_cases inside : (pageBase va).toNat + pageSize.toNat < addressCount
  · rw [toNat_pageSize] at inside
    have low : pageBase va < 0xfffff000 :=
      UInt32.lt_iff_toNat_lt.mpr (show _ < 4294963200 by omega)
    rw [userCheck_eq_ok_iff (by rwa [toNat_pageSize]) low (by decide)]
    -- All addresses of the page are permitted alike.
    have alike (offset : Nat) (within : offset < pageSize.toNat) :
        memory.Permits handle flags (pageBase va + UInt32.ofNat offset) ↔
          memory.Permits handle flags va :=
      permits_congr ((pageNumber_add_offset (isAligned_pageBase va) within).trans
        (pageNumber_pageBase va))
    exact ⟨fun all => (alike 0 (by decide)).mp (all 0 (by decide)),
      fun permitted offset within => (alike offset within).mpr permitted⟩
  · -- The last page of all addresses wraps around, and it does not belong to user memory.
    rw [userCheck_of_wraps (Nat.not_lt.mp inside)]
    rw [toNat_pageSize] at inside
    have bound := va.toNat_lt
    refine ⟨fun passed => by simp at passed, fun permitted => ?_⟩
    have below := UInt32.lt_iff_toNat_lt.mp permitted.1
    rw [toNat_userTop] at below
    omega

end Memory

namespace Kernel

variable {kernel : Kernel} {owner : Slot} {frame : TrapFrame} {address : Address}
  {delivery : FaultDelivery}

/-- An environment can handle a fault: its entry point and the whole record are accessible. -/
structure CanHandle (kernel : Kernel) (slot : Slot) (delivery : FaultDelivery) : Prop where
  /-- The record goes to its own space. -/
  held : (kernel.envAt slot).space = some delivery.space
  /-- The entry point is the one that it has registered. -/
  registered : (kernel.envAt slot).faultEntry = some delivery.entry
  /-- The entry point lies on a page of user memory. -/
  entered : kernel.memory.Permits delivery.space .present delivery.entry
  /-- Every byte of the record may be written by user code. -/
  recorded : ∀ offset < FaultRecord.length,
    kernel.memory.Permits delivery.space (.present ||| .writable)
      (delivery.recordAt + UInt32.ofNat offset)

/-- A fault is planned to be delivered exactly if it can be handled. -/
theorem planFault_eq_some : kernel.planFault owner frame = some delivery ↔
    kernel.CanHandle owner delivery ∧ delivery.recordAt = recordAddress frame.context.esp := by
  -- The plan makes two checks, and each of them is exact for the range that it is made for.
  constructor
  · intro planned
    simp only [planFault] at planned
    split at planned
    · rename_i space entry held registered
      split at planned
      · rename_i entryChecked recordChecked
        simp only [Option.some.injEq] at planned
        subst planned
        exact ⟨⟨held, registered, (Memory.userCheck_page_iff entry).mp entryChecked,
          Memory.userCheck_record_iff.mp recordChecked⟩, rfl⟩
      · simp at planned
    · simp at planned
  · -- The way back: both checks are passed, so that the plan is made.
    rintro ⟨⟨held, registered, entered, recorded⟩, placed⟩
    obtain ⟨space, entry, recordAt⟩ := delivery
    subst placed
    simp only [planFault, held, registered, (Memory.userCheck_page_iff entry).mpr entered,
      Memory.userCheck_record_iff.mpr recorded]

/-- A fault goes to the handler of its environment, and nothing else changes. -/
structure Delivers (kernel : Kernel) (owner : Slot) (frame : TrapFrame) (address : Address)
    (delivery : FaultDelivery) (outcome : Dispatch × Kernel) : Prop where
  /-- The environment goes on at its entry point, on its exception stack. -/
  resumes : outcome.1 = .resume (kernel.envAt owner).id
    { frame with
      context := { frame.context with esp := delivery.recordAt, eip := delivery.entry } }
  /-- The record tells what was refused, and has the registers at the fault. -/
  record_eq : FaultRecord.decode ((addressRange delivery.recordAt FaultRecord.length).map
    (outcome.2.memory.byteAt delivery.space)) =
      { address, code := frame.code, context := frame.context }
  /-- No other byte of memory has changed, and no mapping. -/
  memory : kernel.memory.DiffersWithin delivery.space delivery.recordAt FaultRecord.length
    outcome.2.memory
  /-- Of the environments, only the one at fault has changed: its registers and its run counter. -/
  envs : ∀ slot, outcome.2.envAt slot =
    if slot = owner then
      { kernel.envAt owner with
        frame :=
          { frame with
            context := { frame.context with esp := delivery.recordAt, eip := delivery.entry } }
        runs := (kernel.envAt owner).runs + 1 }
    else kernel.envAt slot
  /-- The rest of the kernel is the same. -/
  rest : outcome.2 =
    { kernel with
      envs := { outcome.2.envs with free := kernel.envs.free }
      memory := outcome.2.memory }

/-- Whether a fault can be handled does not depend on the registers that were saved for it. -/
theorem canHandle_saved : (kernel.saved owner frame).CanHandle owner delivery ↔
    kernel.CanHandle owner delivery := by
  -- Of the record only the registers differ, and these are not asked for.
  have same : (kernel.saved owner frame).envAt owner = { kernel.envAt owner with frame } := by
    rw [envAt_saved, if_pos rfl]
  constructor <;> rintro ⟨held, registered, entered, recorded⟩
  · rw [same] at held registered
    exact ⟨held, registered, entered, recorded⟩
  · exact ⟨by rw [same, held], by rw [same, registered], entered, recorded⟩

/-- A page fault of an environment is handled once its registers are saved. -/
theorem trap_pageFault (user : frame.fromUser = true) (owns : kernel.current = some owner)
    (vector : frame.vector = TrapVector.pageFault) : kernel.trap frame address =
      conclude ((kernel.saved owner frame).handleFault owner frame address) := by
  -- The vector says what kind of trap it is.
  have kind : TrapKind.ofVector frame.vector = .pageFault := by
    rw [vector]
    decide
  rw [trap_fromUser user owns]
  unfold handleTrap
  simp only [kind]

/-- The kernel with a fault at its handler, before the environment goes on. -/
def delivered (kernel : Kernel) (owner : Slot) (frame : TrapFrame) (delivery : FaultDelivery)
    (memory : Memory) : Kernel :=
  ({ kernel.saved owner frame with memory } : Kernel).modifyEnv owner delivery.enter

/-- After a delivery the owner has entered its handler, and the others are as they were. -/
theorem envAt_delivered (memory : Memory) (slot : Slot) :
    (kernel.delivered owner frame delivery memory).envAt slot =
      if slot = owner then delivery.enter { kernel.envAt owner with frame }
      else kernel.envAt slot := by
  -- The registers are saved first, and then moved to the handler.
  have begun (other : Slot) : ({ kernel.saved owner frame with memory } : Kernel).envAt other =
      (kernel.saved owner frame).envAt other := rfl
  rw [delivered, envAt_modifyEnv, begun, begun, envAt_saved, envAt_saved, if_pos rfl]
  split <;> rfl

/-- Apart from environments and memory, a delivered fault leaves the kernel as it was. -/
theorem rest_delivered (owns : kernel.current = some owner) (last : kernel.lastRun = some owner)
    (memory : Memory) :
    let next := (kernel.delivered owner frame delivery memory).dispatched owner
    next = { kernel with
      envs := { next.envs with free := kernel.envs.free }
      memory := next.memory } := by
  -- Whoever owns the processor ran last, so that to run it again changes neither of the two.
  obtain ⟨config, envs, before, current, lastRun, console, monitor, clock⟩ := kernel
  subst owns last
  rfl

/-- The record of a fault that can be handled is read as written, and changes nothing else. -/
theorem CanHandle.reads_record (can : kernel.CanHandle owner delivery)
    (backed : kernel.memory.Backed) {record : FaultRecord} {memory : Memory}
    (recorded : kernel.memory.copyOut delivery.space delivery.recordAt record.encode =
      (.ok (), memory)) :
    FaultRecord.decode ((addressRange delivery.recordAt FaultRecord.length).map
      (memory.byteAt delivery.space)) = record ∧
      kernel.memory.DiffersWithin delivery.space delivery.recordAt FaultRecord.length memory := by
  have length := record.length_encode
  -- The place of the record is mapped throughout, so that what is written is read.
  have read := Memory.read_copyOut backed (by rw [length]; decide) recorded
    fun offset within => (can.recorded offset (length ▸ within)).isSome
  have differs :=
    Memory.differsWithin_copyOut backed delivery.space delivery.recordAt record.encode
  rw [length] at read
  rw [recorded, length] at differs
  exact ⟨by rw [read, FaultRecord.decode_encode], differs⟩

/-- A fault that can be handled is recorded, and its environment goes on at once. -/
theorem Settled.trap_delivered (settled : kernel.Settled) (user : frame.fromUser = true)
    (owns : kernel.current = some owner) (vector : frame.vector = TrapVector.pageFault)
    (can : kernel.CanHandle owner delivery)
    (placed : delivery.recordAt = recordAddress frame.context.esp) (address : Address) :
    ∃ memory, kernel.memory.copyOut delivery.space delivery.recordAt
        (FaultRecord.ofFrame frame address).encode = (.ok (), memory) ∧
      kernel.trap frame address =
        (.resume (kernel.envAt owner).id (delivery.enter { kernel.envAt owner with frame }).frame,
          (kernel.delivered owner frame delivery memory).dispatched owner) := by
  obtain ⟨-, savedOwns, ready⟩ := settled.saved user owns
  have planned : (kernel.saved owner frame).planFault owner frame = some delivery :=
    planFault_eq_some.mpr ⟨canHandle_saved.mpr can, placed⟩
  obtain ⟨memory, recorded⟩ := copyOut_planFault planned (.ofFrame frame address)
  refine ⟨memory, recorded, ?_⟩
  rw [trap_pageFault user owns vector, handleFault_of_planned savedOwns ready planned recorded]
  -- The environment has not lost the processor, and can still run.
  have here : (kernel.delivered owner frame delivery memory).envAt owner =
      delivery.enter { kernel.envAt owner with frame } := by
    rw [envAt_delivered, if_pos rfl]
  have stillOwns : (kernel.delivered owner frame delivery memory).current = some owner := owns
  have stillReady : ((kernel.delivered owner frame delivery memory).envAt owner).isRunnable =
      true := by
    rw [here]
    exact settled.ready owner owns
  refine (goOn_of_isRunnable stillOwns stillReady).trans ?_
  rw [here]
  rfl

/-- A fault that can be handled is delivered. -/
theorem Settled.delivers (settled : kernel.Settled) (user : frame.fromUser = true)
    (owns : kernel.current = some owner) (vector : frame.vector = TrapVector.pageFault)
    (can : kernel.CanHandle owner delivery)
    (placed : delivery.recordAt = recordAddress frame.context.esp) :
    kernel.Delivers owner frame address delivery (kernel.trap frame address) := by
  obtain ⟨memory, recorded, ends⟩ :=
    settled.trap_delivered user owns vector can placed address
  obtain ⟨read, differs⟩ := can.reads_record settled.memory.backed recorded
  obtain ⟨-, last, used⟩ := settled.running owner owns
  -- The environment goes on in its own space, with the record in memory.
  have lastMemory : (kernel.trap frame address).2.memory =
      memory.activate (kernel.envAt owner).space := by
    rw [ends]
    show memory.activate ((kernel.delivered owner frame delivery memory).envAt owner).space = _
    rw [envAt_delivered, if_pos rfl]
    rfl
  refine
    { resumes := by rw [ends]; rfl
      record_eq := by rw [lastMemory]; exact read
      memory := ?_
      envs := fun slot => ?_
      rest := by rw [ends]; exact rest_delivered owns last memory }
  · -- Memory differs within the record, and the space that is switched to is the same.
    rw [lastMemory]
    exact ⟨differs.spaces_eq, used.symm, differs.free_eq, differs.failNext_eq, differs.refs_eq,
      differs.bytes_eq⟩
  · rw [ends, envAt_dispatched, envAt_delivered, envAt_delivered, if_pos rfl]
    split <;> rfl

/-- A fault that cannot be handled is the end of its environment. -/
theorem Settled.removes_fault (settled : kernel.Settled) (user : frame.fromUser = true)
    (owns : kernel.current = some owner) (vector : frame.vector = TrapVector.pageFault)
    (cannot : ∀ delivery : FaultDelivery,
      delivery.recordAt = recordAddress frame.context.esp → ¬kernel.CanHandle owner delivery) :
    kernel.Removes owner (kernel.trap frame address) := by
  -- Without a plan the kernel frees the environment and chooses another one.
  have savedOwns : (kernel.saved owner frame).current = some owner := owns
  have unplanned : (kernel.saved owner frame).planFault owner frame = none := by
    refine Option.eq_none_iff_forall_ne_some.mpr fun delivery planned => ?_
    obtain ⟨can, placed⟩ := planFault_eq_some.mp planned
    exact cannot delivery placed (canHandle_saved.mp can)
  refine settled.removes user owns ?_
  rw [trap_pageFault user owns vector, handleFault_of_unplanned savedOwns unplanned,
    goOn_of_current_none rfl]

/--
A page fault of the running environment is delivered to its handler exactly if the handler is
registered on a page that user code may read, and the record fits on memory that user code may
write, as a whole. It is the end of the environment otherwise, and of no other one.

The record goes below the stack pointer, one word apart, if that is on the exception stack, and
to the top of the exception stack otherwise.
-/
theorem faults_after (config : Config) (events : List KernelEvent) (frame : TrapFrame)
    (address recordAt : Address) (owner : Slot) (user : frame.fromUser = true)
    (owns : (after config events).current = some owner)
    (vector : frame.vector = TrapVector.pageFault)
    (placed : recordAt =
      if exceptionStackTop - pageSize ≤ frame.context.esp ∧ frame.context.esp < exceptionStackTop
      then frame.context.esp - 56 else exceptionStackTop - 52) :
    (∀ delivery : FaultDelivery, delivery.recordAt = recordAt →
      (after config events).CanHandle owner delivery →
        (after config events).Delivers owner frame address delivery
          ((after config events).trap frame address)) ∧
    ((∀ delivery : FaultDelivery, delivery.recordAt = recordAt →
      ¬(after config events).CanHandle owner delivery) →
        (after config events).Removes owner ((after config events).trap frame address)) := by
  -- The address that the statement spells out is the one that the kernel computes.
  have settled := settled_after config events
  have same : recordAt = recordAddress frame.context.esp := placed
  rw [same]
  exact ⟨fun delivery here can => settled.delivers user owns vector can here,
    settled.removes_fault user owns vector⟩

/-- The second environment maps its exception stack and the page below it, and has a handler. -/
def stackMapped : List KernelEvent :=
  -- The handler is on the stack page, which can be read.
  [.create ⟨0, []⟩, .create ⟨0, []⟩, .reschedule,
    .trap (Machine.called .initial .allocPage { second := 0xeebff000, third := 7 }) 0,
    .trap (Machine.called .initial .allocPage { second := 0xeebfe000, third := 7 }) 0,
    .trap (Machine.called .initial .setFaultEntry { second := 0xeebfd008 }) 0]

/-- A handler faults with so little of its stack left that the record spans two pages. -/
theorem faults_straddling :
    let frame : TrapFrame := { TrapFrame.initial with
      vector := TrapVector.pageFault
      context := { TrapFrame.initial.context with esp := 0xeebff01c } }
    let delivery : FaultDelivery := { space := ⟨1⟩, entry := 0xeebfd008, recordAt := 0xeebfefe4 }
    let kernel := after { frames := 16 } stackMapped
    (frame.fromUser = true ∧ kernel.current = some (slotAt 1) ∧
      kernel.CanHandle (slotAt 1) delivery) ∧
      kernel.Delivers (slotAt 1) frame 0x1234 delivery (kernel.trap frame 0x1234) := by
  intro frame delivery
  have user : frame.fromUser = true := by decide
  have owns : (after { frames := 16 } stackMapped).current = some (slotAt 1) := by decide +kernel
  have entered : (after { frames := 16 } stackMapped).memory.userCheck ⟨1⟩ 0xeebfd000 pageSize
      .present = .ok () := by decide +kernel
  have recorded : (after { frames := 16 } stackMapped).memory.userCheck ⟨1⟩ 0xeebfefe4 52
      (.present ||| .writable) = .ok () := by decide +kernel
  -- What passes the check is permitted, for the entry point and for both pages of the record.
  have can : (after { frames := 16 } stackMapped).CanHandle (slotAt 1) delivery :=
    { held := by decide +kernel
      registered := by decide +kernel
      entered := (Memory.userCheck_page_iff 0xeebfd008).mp entered
      recorded := fun _ within =>
        Memory.permits_of_userCheck (by decide) (by decide) recorded within }
  exact ⟨⟨user, owns, can⟩, (faults_after { frames := 16 } stackMapped frame 0x1234 0xeebfefe4
    (slotAt 1) user owns rfl (by decide)).1 delivery rfl can⟩

end Kernel

end Exokernel
