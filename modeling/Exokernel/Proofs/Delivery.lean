import Exokernel.Proofs.Kernel.WriteAccess
import Exokernel.Proofs.Outline

/-! How the running environment gets to handle its page faults, and how it loses the processor. -/

namespace Exokernel.Machine

variable {machine next : Machine} {slot : Slot} {space : SpaceHandle}

namespace Runs

/-- The registers that are set are the ones that the running environment goes on with. -/
theorem context_setContext (runs : machine.Runs slot space) (context : UserContext) :
    (machine.setContext context).context = context := by
  -- The processor runs, so that there are registers to set.
  simp only [Machine.setContext, runs.cpu_eq, Machine.context]

/-- New registers change the stack pointer of the running environment, and no other outline. -/
theorem setContext (runs : machine.Runs slot space) (context : UserContext) :
    (machine.setContext context).Runs slot space ∧
      (machine.setContext context).kernel = machine.kernel ∧
      ∀ other, (machine.setContext context).outline other =
        if other = slot then { machine.outline slot with stack := context.esp }
        else machine.outline other := by
  -- The registers are in the processor, so that the kernel does not notice.
  have coupled := runs.coupled.step (.setContext context)
  change (machine.setContext context).Coupled at coupled
  have kernel : (machine.setContext context).kernel = machine.kernel := by
    unfold Machine.setContext
    split <;> rfl
  have again : (machine.setContext context).Runs slot space :=
    ⟨coupled, by rw [kernel, runs.owns], by rw [kernel, runs.held]⟩
  refine ⟨again, kernel, fun other => ?_⟩
  by_cases here : other = slot
  · rw [if_pos here, here, again.outline_eq, runs.outline_eq, kernel,
      runs.context_setContext context]
  · have elsewhere : machine.kernel.current ≠ some other := by simpa [runs.owns] using Ne.symm here
    rw [if_neg here, outline, outline, kernel, if_neg elsewhere, if_neg elsewhere]

/-- Bytes that are written in place change no outline. -/
theorem copyOut (runs : machine.Runs slot space) (va : Address) (data : List UInt8) :
    let after := { machine with kernel := { machine.kernel with
      memory := (machine.kernel.memory.copyOut space va data).2 } }
    after.Runs slot space ∧ after.outline = machine.outline := by
  intro after
  -- Neither records nor mappings change.
  have settled : after.kernel.Settled :=
    ⟨runs.coupled.settled.toConsistent.copyOut space va data, runs.coupled.settled.ready⟩
  exact ⟨⟨runs.coupled.setKernel settled rfl rfl, runs.owns, runs.held⟩, rfl⟩

/-- What is loaded in place was not refused, and is what memory holds. -/
theorem load_ok (runs : machine.Runs slot space) {va : Address} {length : Nat}
    {bytes : List UInt8} (loaded : Cpu.access machine (.load va length) = (.ok bytes, next)) :
    next = machine ∧ bytes = (addressRange va length).map (machine.kernel.memory.byteAt space) ∧
      ∀ offset < length, machine.refusal? false (va + UInt32.ofNat offset) = none := by
  -- The space in use is the one of the running environment.
  obtain ⟨⟨used, active, contents⟩, same, granted⟩ := Machine.load_ok loaded
  rw [runs.active, Option.some.injEq] at active
  exact ⟨same, active ▸ contents, granted⟩

/-- What is stored in place was not refused, and is written to memory. -/
theorem store_ok (runs : machine.Runs slot space) {va : Address} {data bytes : List UInt8}
    (stored : Cpu.access machine (.store va data) = (.ok bytes, next)) :
    machine.kernel.memory.copyOut space va data = (.ok (), next.kernel.memory) ∧
      next.Runs slot space ∧ next.outline = machine.outline ∧
      ∀ offset < data.length, machine.refusal? true (va + UInt32.ofNat offset) = none := by
  -- The space in use is the one of the running environment.
  obtain ⟨⟨used, active, rfl⟩, granted⟩ := Machine.store_ok (store_of_access stored)
  rw [runs.active, Option.some.injEq] at active
  subst active
  obtain ⟨again, outline⟩ := runs.copyOut va data
  have written := Memory.copyOut_ok (mapped_of_granted runs.active granted)
  exact ⟨Prod.ext written rfl, again, outline, granted⟩

/-- What may be written is mapped for writing. -/
theorem writable (runs : machine.Runs slot space) {va : Address} {target : PageEntry}
    (granted : machine.refusal? true va = none)
    (found : machine.kernel.memory.entryAt? space va = some target) :
    target.flags.contains .writable = true := by
  -- The processor has looked at this very entry.
  obtain ⟨used, entry, active, -, looked, allowed⟩ := refusal?_eq_none.mp granted
  rw [runs.active, Option.some.injEq] at active
  rw [← active, found, Option.some.injEq] at looked
  exact looked ▸ (PageFlags.contains_or_iff.mp allowed).2

/-- An environment that is destroyed does not go on. -/
theorem not_isRunning_of_freed (runs : machine.Runs slot space) {frame : TrapFrame}
    (user : frame.fromUser = true) :
    (apply { (machine.kernel.saved slot frame).freeEnv slot with
      current := none }.goOn).isRunning (machine.kernel.envAt slot).id = false := by
  obtain ⟨consistent, owns, ready⟩ := runs.coupled.settled.saved user runs.owns
  have freed : ({ (machine.kernel.saved slot frame).freeEnv slot with current := none } :
      Kernel).Consistent :=
    consistent.effect owns ready
      (.exit : Kernel.Effect (machine.kernel.saved slot frame) slot frame 0 _ none)
  -- The slot is vacated, so that nobody could run from it.
  have gone : (({ (machine.kernel.saved slot frame).freeEnv slot with current := none } :
      Kernel).envAt slot).isRunnable = false := by
    show (((machine.kernel.saved slot frame).freeEnv slot).envAt slot).isRunnable = false
    rw [Kernel.envAt_freeEnv, if_pos rfl]
    rfl
  generalize ({ (machine.kernel.saved slot frame).freeEnv slot with current := none } :
    Kernel) = last at freed gone
  have ends := last.ends_goOn
  generalize last.goOn = outcome at ends
  cases ends with
  | resume chosen chosenReady =>
    -- The id leads back to the slot, and the slot is empty.
    refine beq_eq_false_iff_ne.mpr fun same => ?_
    simp only [apply, Machine.current, Option.some.injEq] at same
    have named := freed.envs.slot_id (Env.isLive_of_isRunnable chosenReady)
    change (last.envAt chosen).id.slot = chosen at named
    rw [same, runs.slot_id] at named
    rw [named, chosenReady] at gone
    simp at gone
  | idle => rfl

/-- A page fault of the running environment is handled with its registers saved. -/
theorem raise_pageFault (runs : machine.Runs slot space) (code : Word) (address : Address) :
    ∃ frame : TrapFrame, frame.fromUser = true ∧ frame.context = machine.context ∧
      frame.code = code ∧ machine.raise TrapVector.pageFault code address = apply
        (Kernel.conclude ((machine.kernel.saved slot frame).handleFault slot frame address)) := by
  have running := runs.cpu_eq
  have context := runs.context_eq
  have userMode := runs.fromUser
  generalize machine.frame?.getD {} = live at running context userMode
  -- The registers that the kernel saves are the live ones, up to the cause of the trap.
  refine ⟨{ live with vector := TrapVector.pageFault, code }, userMode, context.symm, rfl, ?_⟩
  have kind : TrapKind.ofVector ({ live with vector := TrapVector.pageFault, code } :
      TrapFrame).vector = .pageFault := by
    show TrapKind.ofVector TrapVector.pageFault = .pageFault
    decide
  have user : ({ live with vector := TrapVector.pageFault, code } : TrapFrame).fromUser = true :=
    userMode
  simp only [Machine.raise, running]
  -- The owner is in user mode, so that its own handler is asked.
  rw [Kernel.trap_fromUser user runs.owns]
  simp only [Kernel.handleTrap, kind]

/-- Memory is as the kernel leaves it if the same space is in use again. -/
theorem memory_goOn {acted : Kernel} (next : (apply acted.goOn).Runs slot space)
    (active : acted.memory.active = some space) :
    (apply acted.goOn).kernel.memory = acted.memory := by
  -- Only the space in use could change, and it is the same one.
  obtain ⟨chosen, switched⟩ := acted.ends_goOn.undisturbed.memory
  have used := next.active
  rw [kernel_apply, switched] at used ⊢
  change chosen = some space at used
  rw [used, ← active]
  rfl

/-- A fault whose record was written puts the stack pointer of its environment on the record. -/
theorem outline_fault (runs : machine.Runs slot space) {frame : TrapFrame} (memory : Memory)
    {delivery : Kernel.FaultDelivery} (registers : frame.context = machine.context)
    (placed : delivery.recordAt = recordAddress machine.context.esp) (other : Slot) :
    (apply ({ machine.kernel.saved slot frame with memory }.modifyEnv slot
        delivery.enter).goOn).outline other =
      if other = slot then
        { machine.outline slot with stack := recordAddress machine.context.esp }
      else machine.outline other := by
  -- Saving the registers changed no outline, and entering the handler changes one stack pointer.
  have saved := runs.outline_saved (congrArg UserContext.esp registers)
  have begun (other : Slot) : ({ machine.kernel.saved slot frame with memory } : Kernel).envAt
      other = (machine.kernel.saved slot frame).envAt other := rfl
  rw [outline_apply (Kernel.ends_goOn _), ← saved, Kernel.outline, Kernel.envAt_modifyEnv, begun,
    begun, ← placed]
  split <;> rfl

/-- A fault after which the environment still runs has left its record on the exception stack. -/
theorem delivered (runs : machine.Runs slot space) (code : Word) (address : Address)
    (again : (machine.raise TrapVector.pageFault code address).isRunning
      (machine.kernel.envAt slot).id = true) :
    ∃ memory, machine.kernel.memory.userCheck space (recordAddress machine.context.esp)
        FaultRecord.size (.present ||| .writable) = .ok () ∧
      machine.kernel.memory.copyOut space (recordAddress machine.context.esp)
        (FaultRecord.encode { address, code, context := machine.context }) = (.ok (), memory) ∧
      (machine.raise TrapVector.pageFault code address).Runs slot space ∧
      (machine.raise TrapVector.pageFault code address).kernel.memory = memory ∧
      ∀ other, (machine.raise TrapVector.pageFault code address).outline other =
        if other = slot then
          { machine.outline slot with stack := recordAddress machine.context.esp }
        else machine.outline other := by
  obtain ⟨frame, user, registers, cause, raised⟩ := runs.raise_pageFault code address
  have record : FaultRecord.ofFrame frame address =
      { address, code, context := machine.context } := by
    rw [FaultRecord.ofFrame, registers, cause]
  have owns : (machine.kernel.saved slot frame).current = some slot := runs.owns
  have ready : ((machine.kernel.saved slot frame).envAt slot).isRunnable = true := by
    rw [Kernel.envAt_saved, if_pos rfl]
    exact runs.ready
  have coupled := runs.coupled.raise TrapVector.pageFault code address
  rw [raised] at again coupled ⊢
  cases planned : (machine.kernel.saved slot frame).planFault slot frame with
  | none =>
    -- A fault that cannot be delivered would have been the end of the environment.
    rw [Kernel.handleFault_of_unplanned owns planned, runs.not_isRunning_of_freed user] at again
    simp at again
  | some delivery =>
    obtain ⟨memory, recorded⟩ := Kernel.copyOut_planFault planned (.ofFrame frame address)
    obtain ⟨held, -, placed, checked⟩ := Kernel.planFault_some planned
    rw [Kernel.envAt_saved, if_pos rfl, runs.held, Option.some.injEq] at held
    rw [registers] at placed
    rw [Kernel.handleFault_of_planned owns ready planned recorded] at again coupled ⊢
    rw [record, ← held, placed] at recorded
    rw [← held, placed] at checked
    have outlines := runs.outline_fault memory registers placed
    -- The environment runs on, with its stack below the record.
    have next := runs.still coupled again (by rw [outlines, if_pos rfl])
      (by rw [outlines, if_pos rfl])
    -- Writing a record switches no space.
    have active : memory.active = some space := by
      have same := (machine.kernel.memory.spaces_copyOut space
        (recordAddress machine.context.esp) (FaultRecord.encode
          { address, code, context := machine.context })).2
      change (Memory.copyOut (machine.kernel.saved slot frame).memory _ _ _).2.active = _ at same
      rw [recorded, runs.active] at same
      exact same
    exact ⟨memory, checked, recorded, next, memory_goOn next active, outlines⟩

end Runs

/-- The timer changes no outline and no bytes. -/
theorem Coupled.timerInterrupt (coupled : machine.Coupled) :
    machine.timerInterrupt.Coupled ∧ machine.timerInterrupt.outline = machine.outline ∧
      ∃ active, machine.timerInterrupt.kernel.memory = machine.kernel.memory.activate active := by
  refine ⟨coupled.step (.interrupt TrapVector.timerLine), ?_⟩
  cases state : machine.cpu with
  | running id live =>
    -- The registers are saved, the clock ticks, and somebody is given the processor.
    obtain ⟨slot, owns, named⟩ := coupled.owner state
    obtain ⟨space, held, -⟩ := coupled.settled.owns slot
      (Env.isLive_of_isRunnable (coupled.settled.ready slot owns))
    have runs : machine.Runs slot space := ⟨coupled, owns, held⟩
    have entry := step_interrupt state TrapVector.timerLine
    change machine.timerInterrupt = _ at entry
    have kind : TrapKind.ofVector (interrupted live TrapVector.timerLine).vector = .timer := by
      show TrapKind.ofVector (TrapVector.irqBase + TrapVector.timerLine) = .timer
      decide
    have user : (interrupted live TrapVector.timerLine).fromUser = true :=
      coupled.userMode live (by simp [frame?, state])
    have stack : (interrupted live TrapVector.timerLine).context.esp = machine.context.esp := by
      simp only [Machine.context, state, interrupted]
    -- Saving the registers and ticking leave the outline alone, and so does the choice.
    have outlines := runs.outline_saved stack
    rw [entry, Kernel.trap_timer user owns kind]
    have kept : (machine.kernel.saved slot (interrupted live TrapVector.timerLine)).memory =
        machine.kernel.memory := rfl
    generalize machine.kernel.saved slot (interrupted live TrapVector.timerLine) = saved at *
    generalize saved.clock.tick = clock
    have ends : ({ saved with clock } : Kernel).Ends ({ saved with clock } : Kernel).reschedule :=
      Kernel.ends_reschedule _
    have ticked : ({ saved with clock } : Kernel).outline = machine.outline := outlines
    refine ⟨(outline_apply ends).trans ticked, ?_⟩
    obtain ⟨active, switched⟩ := ends.undisturbed.memory
    rw [kernel_apply, switched]
    exact ⟨active, congrArg (·.activate active) kept⟩
  | _ =>
    -- A processor that is not in user mode takes no interrupt.
    have same : machine.timerInterrupt = machine := by
      simp only [Machine.timerInterrupt, interrupt, Machine.raise, state]
    rw [same]
    exact ⟨rfl, machine.kernel.memory.active, rfl⟩

end Exokernel.Machine
