import Exokernel.Proofs.Kernel.Effects
import Exokernel.Proofs.Memory.UserRanges

/-! A trap has one effect, and then the processor is given away. -/

namespace Exokernel

/-- The record of a fault takes thirteen words. -/
theorem FaultRecord.length_encode (record : FaultRecord) :
    record.encode.length = FaultRecord.length := by
  -- Eight of them are general registers.
  simp [encode, toWords, Registers.toWords, wordBytes]

/-- The number of the address at which a record goes. -/
theorem toNat_recordAddress (esp : Address) : (recordAddress esp).toNat =
    if 4005556224 ≤ esp.toNat ∧ esp.toNat < 4005560320 then esp.toNat - 56 else 4005560268 := by
  -- A nested record goes below the stack pointer, and a first one below the stack top.
  have nested : (exceptionStackTop - pageSize ≤ esp ∧ esp < exceptionStackTop) ↔
      4005556224 ≤ esp.toNat ∧ esp.toNat < 4005560320 :=
    and_congr UInt32.le_iff_toNat_le UInt32.lt_iff_toNat_lt
  have room : (4 + FaultRecord.size).toNat = 56 := rfl
  simp only [recordAddress, nested]
  split
  · rw [UInt32.toNat_sub_of_le _ _ (UInt32.le_iff_toNat_le.mpr (by omega)), room]
  · rfl

/-- The record of a fault goes below the end of user memory. -/
theorem toNat_recordAddress_le (esp : Address) :
    (recordAddress esp).toNat + FaultRecord.length ≤ 4005560320 := by
  -- Both places for a record end at or below the top of the stack for handlers.
  have length : FaultRecord.length = 52 := rfl
  rw [toNat_recordAddress, length]
  split <;> omega

/-- A fault record passes the check exactly if user code may write all of it. -/
theorem Memory.userCheck_record_iff {memory : Memory} {handle : SpaceHandle} {stack : Address} :
    memory.userCheck handle (recordAddress stack) FaultRecord.size (.present ||| .writable) =
      .ok () ↔ ∀ offset < FaultRecord.length,
        memory.Permits handle (.present ||| .writable)
          (recordAddress stack + UInt32.ofNat offset) := by
  have size : FaultRecord.size.toNat = 52 := rfl
  have count : addressCount = 4294967296 := rfl
  -- Records end with user memory at the latest, so that the check is right for them.
  have below : (recordAddress stack).toNat + 52 ≤ 4005560320 := toNat_recordAddress_le stack
  have low : recordAddress stack < 0xfffff000 :=
    UInt32.lt_iff_toNat_lt.mpr (show _ < 4294963200 by omega)
  exact userCheck_eq_ok_iff (by rw [size]; omega) low (by decide)

namespace Kernel

variable {kernel : Kernel} {owner : Slot} {frame : TrapFrame}

/-- A fault is delivered where its record fits on memory that the environment can write. -/
theorem planFault_some {delivery : FaultDelivery}
    (planned : kernel.planFault owner frame = some delivery) :
    (kernel.envAt owner).space = some delivery.space ∧
      (kernel.envAt owner).faultEntry = some delivery.entry ∧
      delivery.recordAt = recordAddress frame.context.esp ∧
      kernel.memory.userCheck delivery.space delivery.recordAt FaultRecord.size
        (.present ||| .writable) = .ok () := by
  -- All four conditions are tested before anything is planned.
  simp only [planFault] at planned
  split at planned
  · rename_i space entry held registered
    split at planned
    · rename_i entryChecked recordChecked
      simp only [Option.some.injEq] at planned
      rw [← planned]
      exact ⟨held, registered, rfl, recordChecked⟩
    · simp at planned
  · simp at planned

/-- The record of a fault that can be delivered is written without a failure. -/
theorem copyOut_planFault {delivery : FaultDelivery}
    (planned : kernel.planFault owner frame = some delivery) (record : FaultRecord) :
    ∃ memory, kernel.memory.copyOut delivery.space delivery.recordAt record.encode =
      (.ok (), memory) := by
  -- The check covers all addresses of the record, so each of its bytes finds a page.
  obtain ⟨-, -, placed, checked⟩ := planFault_some planned
  rw [placed] at checked ⊢
  have written : (kernel.memory.copyOut delivery.space (recordAddress frame.context.esp)
      record.encode).1 = .ok () := by
    refine Memory.copyOut_ok fun offset inside => ?_
    rw [FaultRecord.length_encode] at inside
    exact (Memory.userCheck_record_iff.mp checked offset inside).isSome
  exact ⟨_, Prod.ext written rfl⟩

/-- A fault that cannot be delivered is the end of the environment. -/
theorem handleFault_of_unplanned (owns : kernel.current = some owner)
    (planned : kernel.planFault owner frame = none) (address : Address) :
    conclude (kernel.handleFault owner frame address) =
      { kernel.freeEnv owner with current := none }.goOn := by
  -- Whoever is destroyed leaves the processor, so that somebody else is chosen.
  rw [goOn_of_current_none rfl]
  simp only [handleFault, planned, destroyEnv_owner owns, conclude]

/-- A fault that can be delivered makes the environment go on at its entry point. -/
theorem handleFault_of_planned (owns : kernel.current = some owner)
    (ready : (kernel.envAt owner).isRunnable = true) {delivery : FaultDelivery}
    (planned : kernel.planFault owner frame = some delivery) {address : Address} {memory : Memory}
    (recorded : kernel.memory.copyOut delivery.space delivery.recordAt
      (FaultRecord.ofFrame frame address).encode = (.ok (), memory)) :
    conclude (kernel.handleFault owner frame address) =
      ({ kernel with memory }.modifyEnv owner delivery.enter).goOn := by
  -- Only registers and bytes changed, so the environment can still run.
  have entered (next : Kernel) (same : next.envs = kernel.envs) :
      ((next.modifyEnv owner delivery.enter).envAt owner).isRunnable = true := by
    rw [envAt_modifyEnv, if_pos rfl, envAt, same]
    exact ready
  simp only [handleFault, planned, recorded, conclude]
  generalize moved : ({ kernel with memory } : Kernel) = next
  have nextReady := entered next (by rw [← moved])
  have nextOwns : (next.modifyEnv owner delivery.enter).current = some owner := by
    rw [← moved]
    exact owns
  rw [goOn_of_isRunnable nextOwns nextReady, run_of_isRunnable nextReady]

/-- Handling a page fault sends it to the environment's handler or is the end of the environment. -/
theorem handleFault_effect (owns : kernel.current = some owner)
    (ready : (kernel.envAt owner).isRunnable = true) (address : Address) :
    ∃ acted, Effect kernel owner frame address acted none ∧
      conclude (kernel.handleFault owner frame address) = acted.goOn := by
  -- A fault is delivered if a delivery can be planned, and is fatal otherwise.
  cases planned : kernel.planFault owner frame with
  | none => exact ⟨_, .exit, handleFault_of_unplanned owns planned address⟩
  | some delivery =>
    obtain ⟨memory, recorded⟩ := copyOut_planFault planned (.ofFrame frame address)
    exact ⟨_, .fault planned recorded, handleFault_of_planned owns ready planned recorded⟩

/-- A system call has one effect, and leaves its word in the caller's result register. -/
theorem handleCall_effect (owns : kernel.current = some owner)
    (kind : TrapKind.ofVector frame.vector = .systemCall) (address : Address) :
    (∃ acted answer, Effect kernel owner frame address acted answer ∧
      conclude (kernel.handleCall frame) = (acted.answered answer).goOn) ∨
    conclude (kernel.handleCall frame) = (kernel.answered (some 0)).reschedule := by
  -- An unknown number is answered at once; a known one is carried out.
  unfold handleCall syscall
  cases number : Syscall.decode frame.context.regs.eax with
  | error error =>
    simp only [number]
    exact .inl ⟨kernel, some error.toWord, .nothing _, rfl⟩
  | ok call =>
    simp only [number]
    have completes : Completes kernel owner frame address
        (kernel.perform call (.ofRegisters frame.context.regs)) :=
      completes_perform owns ⟨kind, number, rfl⟩
    generalize kernel.perform call (.ofRegisters frame.context.regs) = outcome at completes
    cases completes with
    | answer effect => exact .inl ⟨_, _, effect, rfl⟩
    | exit chosen =>
      refine .inl ⟨_, none, .exit, ?_⟩
      rw [answered, goOn_of_current_none rfl, ← chosen]
      rfl
    | pause chosen =>
      rw [answered, ← chosen]
      exact .inr rfl

/-- A trap of user code is handled once the registers of the running environment are saved. -/
theorem trap_fromUser (user : frame.fromUser = true) (owns : kernel.current = some owner)
    (address : Address) : kernel.trap frame address =
      conclude ((kernel.saved owner frame).handleTrap (some owner) frame address) := by
  -- The owner is the origin of the trap.
  simp only [trap, if_pos user, owns]
  rfl

/-- A trap of user code while nobody runs stops the kernel. -/
theorem trap_unowned (user : frame.fromUser = true) (unowned : kernel.current = none)
    (address : Address) :
    kernel.trap frame address = kernel.halt (.panic (.noCurrentEnv frame.vector)) := by
  -- There is no record to save registers in.
  simp only [trap, if_pos user, unowned]

/-- A trap of the kernel itself is handled without saving any registers. -/
theorem trap_fromKernel (user : ¬frame.fromUser = true) (address : Address) :
    kernel.trap frame address = conclude (kernel.handleTrap none frame address) := by
  -- Its registers belong to no environment.
  simp only [trap, if_neg user]

/--
A trap of the environment that owns the processor saves its registers, has one effect, answers a
system call, and ends with the environment or with another one; a pause, asked for or forced by
the timer, ends with the next one in turn.
-/
theorem trap_effect (user : frame.fromUser = true) (owns : kernel.current = some owner)
    (ready : (kernel.envAt owner).isRunnable = true) (address : Address) :
    ∃ acted answer, Effect (kernel.saved owner frame) owner frame address acted answer ∧
      (kernel.trap frame address = (acted.answered answer).goOn ∨
        (∃ clock, acted = { kernel.saved owner frame with clock }) ∧
          kernel.trap frame address = (acted.answered answer).reschedule) := by
  -- Save the registers first, and then distinguish the kinds of traps.
  have savedOwns : (kernel.saved owner frame).current = some owner := owns
  have savedReady : ((kernel.saved owner frame).envAt owner).isRunnable = true := by
    rw [envAt_saved, if_pos rfl]
    exact ready
  rw [trap_fromUser user owns]
  generalize kernel.saved owner frame = saved at savedOwns savedReady
  unfold handleTrap
  cases kind : TrapKind.ofVector frame.vector with
  | pageFault =>
    obtain ⟨acted, effect, ends⟩ := handleFault_effect savedOwns savedReady address
    exact ⟨acted, none, effect, .inl ends⟩
  | breakpoint => exact ⟨_, none, .breakpoint, .inl rfl⟩
  | systemCall =>
    rcases handleCall_effect savedOwns kind address with
      ⟨acted, answer, effect, ends⟩ | ends
    · exact ⟨acted, answer, effect, .inl ends⟩
    · exact ⟨saved, some 0, .nothing _, .inr ⟨⟨saved.clock, rfl⟩, ends⟩⟩
  | timer =>
    refine ⟨_, none, .tick, .inr ⟨⟨_, rfl⟩, ?_⟩⟩
    simp only [conclude, answered]
  | spurious => exact ⟨saved, none, .nothing _, .inl rfl⟩
  | unexpected =>
    refine ⟨_, none, .exit, .inl ?_⟩
    rw [answered, goOn_of_current_none rfl]
    simp only [destroyEnv_owner savedOwns, conclude]

end Kernel

end Exokernel
