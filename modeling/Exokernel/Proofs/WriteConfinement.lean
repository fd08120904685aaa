import Exokernel.Proofs.Kernel.WriteAccess
import Exokernel.Proofs.Outline

/-! A step of an environment writes only where its own address space lets it write. -/

namespace Exokernel

namespace Memory

variable {memory next : Memory} {handle : SpaceHandle}

/-- A space lets user code write to a frame. -/
def WritableIn (memory : Memory) (handle : SpaceHandle) (frame : FrameNumber) : Prop :=
  ∃ va entry, memory.entryAt? handle va = some entry ∧ entry.frame = frame ∧
    entry.flags.contains (.user ||| .writable) = true

/-- A frame that is mapped for writing nowhere is not writable in any space. -/
theorem WritableIn.mapsWritable {frame : FrameNumber} (writable : memory.WritableIn handle frame) :
    memory.MapsWritable frame := by
  -- The page that makes it writable is one of some space.
  obtain ⟨va, entry, found, rfl, allowed⟩ := writable
  exact ⟨handle, va, entry.flags, found, (PageFlags.contains_or_iff.mp allowed).2⟩

/-- Other bytes appear only in free frames, and where a space lets user code write. -/
def WritesWithin (memory : Memory) (handle : SpaceHandle) (next : Memory) : Prop :=
  ∀ frame, frame ∉ memory.pool.free → ¬memory.WritableIn handle frame →
    next.pool.page frame = memory.pool.page frame

namespace WritesWithin

/-- Memory to which nothing is written stays within its limits. -/
theorem refl (memory : Memory) (handle : SpaceHandle) : memory.WritesWithin handle memory :=
  fun _ _ _ => rfl

/-- Filling free frames with zeros writes nowhere else. -/
theorem ofClears (clears : FramePool.Clears memory.pool next.pool) :
    memory.WritesWithin handle next :=
  fun _ used _ => clears.page_of_used used

/-- Writing to a range that user code may write to as a whole. -/
theorem copyOut {va : Address} {bytes : List UInt8}
    (writable : ∀ offset < bytes.length, ∀ entry,
      memory.entryAt? handle (va + UInt32.ofNat offset) = some entry →
        entry.flags.contains (.user ||| .writable) = true) :
    memory.WritesWithin handle (memory.copyOut handle va bytes).2 := by
  -- Each byte goes to a frame that is writable, which this one is not.
  intro frame _ unwritable
  refine page_copyOut fun offset inside entry found => ?_
  rintro rfl
  exact unwritable ⟨_, entry, found, rfl, writable offset inside entry found⟩

end WritesWithin

end Memory

namespace Kernel

open Memory (WritesWithin)

variable {kernel : Kernel} {owner : Slot} {frame : TrapFrame} {address : Address}
  {space : SpaceHandle}

/-- An environment may write to a frame: its own space lets user code write there. -/
def MayWrite (kernel : Kernel) (id : EnvId) (frame : FrameNumber) : Prop :=
  ∃ space, kernel.space? id = some space ∧ kernel.memory.WritableIn space frame

/-- Memory that is taken to place the page of a message was free. -/
theorem Consistent.clears_placePage (consistent : kernel.Consistent) (delivery : Delivery) :
    FramePool.Clears kernel.memory.pool (delivery.placePage kernel.memory).2.pool := by
  unfold Delivery.placePage
  -- Without a page there is nothing to take memory for.
  split
  · exact fun _ => .inl rfl
  · exact PlannedMapping.clears_replace consistent.memory _

/-- Memory that is taken to create an environment was free. -/
theorem clears_allocEnv (kernel : Kernel) (parent : EnvId) :
    FramePool.Clears kernel.memory.pool (kernel.allocEnv parent).2.memory.pool := by
  have supplies := kernel.memory.supplies_createSpace
  unfold allocEnv
  split
  · exact fun _ => .inl rfl
  · -- The space is created first, and whether or not that succeeds, only free frames are taken.
    split <;> rename_i created <;> rw [created] at supplies <;> exact supplies.clears

/-- The record of a fault goes where the environment may write itself. -/
theorem writesWithin_fault {delivery : FaultDelivery} {memory : Memory}
    (held : (kernel.envAt owner).space = some space)
    (planned : kernel.planFault owner frame = some delivery)
    (recorded : kernel.memory.copyOut delivery.space delivery.recordAt
      (FaultRecord.ofFrame frame address).encode = (.ok (), memory)) :
    kernel.memory.WritesWithin space memory := by
  obtain ⟨holds, -, placed, checked⟩ := planFault_some planned
  rw [held, Option.some.injEq] at holds
  subst holds
  rw [placed] at checked recorded
  -- Where the record goes, the environment has write access itself, which was checked.
  have written : kernel.memory.WritesWithin delivery.space
      (kernel.memory.copyOut delivery.space (recordAddress frame.context.esp)
        (FaultRecord.ofFrame frame address).encode).2 := by
    refine .copyOut fun offset inside entry found => ?_
    rw [FaultRecord.length_encode] at inside
    exact (Memory.userCheck_record_iff.mp checked offset inside).writable found
  rwa [recorded] at written

/-- Before the next environment is chosen, a trap writes only where its environment may write. -/
theorem Consistent.writesWithin_effect (consistent : kernel.Consistent)
    (held : (kernel.envAt owner).space = some space) {acted : Kernel} {answer : Option Word}
    (effect : Effect kernel owner frame address acted answer) :
    kernel.memory.WritesWithin space acted.memory := by
  -- Only the record of a fault is written to a frame in use; all else clears free frames.
  cases effect with
  | fault planned recorded => exact writesWithin_fault held planned recorded
  | exit => exact fun frame _ _ => (contents_freeEnv kernel owner).2 frame
  | destroy => exact fun frame _ _ => (contents_freeEnv kernel _).2 frame
  | allocPage => exact .ofClears (kernel.memory.clears_mapFresh _ _ _)
  | mapPage => exact .ofClears (kernel.memory.clears_map _ _ _ _)
  | unmapPage => exact fun frame _ _ => kernel.memory.page_unmap _ _ frame
  | @deliver words delivery memory value request resolved placed =>
    have clears := consistent.clears_placePage delivery
    rw [placed] at clears
    exact .ofClears clears
  | @undelivered words delivery memory error request resolved unplaced =>
    have clears := consistent.clears_placePage delivery
    rw [unplaced] at clears
    exact .ofClears clears
  | fork value request allocated =>
    have clears := kernel.clears_allocEnv (kernel.envAt owner).id
    rw [allocated] at clears
    exact .ofClears clears
  | unforked request refused =>
    have clears := kernel.clears_allocEnv (kernel.envAt owner).id
    rw [refused] at clears
    exact .ofClears clears
  | _ => exact .refl _ _

/-- A trap writes only where the environment that owns the processor may write. -/
theorem Settled.writesWithin_trap (settled : kernel.Settled) (owns : kernel.current = some owner)
    (held : (kernel.envAt owner).space = some space) (frame : TrapFrame) (address : Address) :
    kernel.memory.WritesWithin space (kernel.trap frame address).2.memory := by
  rcases settled.memory_trap frame address with
    ⟨active, same⟩ | ⟨slot, acted, answer, active, user, current, effect, same⟩
  · rw [same]
    exact .refl kernel.memory space
  · rw [owns, Option.some.injEq] at current
    subst current
    obtain ⟨consistent, -, -⟩ := settled.saved user owns
    -- Saving the registers concerns neither the memory nor the space.
    have holds : ((kernel.saved owner frame).envAt owner).space = some space := by
      rw [envAt_saved, if_pos rfl]
      exact held
    rw [same]
    exact consistent.writesWithin_effect holds effect

end Kernel

/-- The running environment brings an event about, or the event interrupts it. -/
def MachineEvent.isOwn : MachineEvent → Bool
  | .load .. | .store .. | .syscall .. | .setContext .. | .exception .. | .interrupt .. => true
  | .create .. | .boot | .kernelTrap .. | .forceFailure | .typed .. => false

namespace Machine

variable {machine : Machine} {slot : Slot} {space : SpaceHandle}

/-- The kernels that one step of the running environment can lead to. -/
inductive OwnStep (machine : Machine) : Kernel → Prop where
  /-- It does something, or is interrupted. -/
  | event {event : MachineEvent} (own : event.isOwn = true) :
      OwnStep machine (machine.step event).kernel
  /-- It traps, with any vector and any registers. -/
  | trap (frame : TrapFrame) (user : frame.fromUser = true) (address : Address) :
      OwnStep machine (machine.kernel.trap frame address).2

/-- A step of an environment changes no frame that is in use and that it may not write to. -/
def WriteConfined (machine : Machine) (id : EnvId) : Prop :=
  -- Frames not in use are left out, as they may be zeroed for a new page.
  ∀ next, machine.OwnStep next → ∀ frame, 0 < machine.kernel.memory.pool.refs frame →
    ¬machine.kernel.MayWrite id frame →
      next.memory.pool.page frame = machine.kernel.memory.pool.page frame

namespace Runs

/-- The running environment is found by its id. -/
theorem env?_eq (runs : machine.Runs slot space) :
    machine.kernel.env? (machine.kernel.envAt slot).id = some (machine.kernel.envAt slot) :=
  Kernel.env?_eq_some.mpr ⟨by rw [runs.slot_id], Env.isLive_of_isRunnable runs.ready, rfl⟩

/-- The running environment's id leads to its space. -/
theorem space?_eq (runs : machine.Runs slot space) :
    machine.kernel.space? (machine.kernel.envAt slot).id = some space := by
  -- Its record is found, and has the space.
  rw [Kernel.space?, runs.env?_eq]
  exact runs.held

/-- A trap writes to no frame that the running environment may not write to. -/
theorem writesWithin_raise (runs : machine.Runs slot space) (vector code : Word)
    (address : Address) : machine.kernel.memory.WritesWithin space
      (machine.raise vector code address).kernel.memory := by
  -- It enters the kernel, or it does nothing.
  rcases machine.kernel_raise vector code address with same | ⟨frame, entered⟩
  · rw [same]
    exact .refl machine.kernel.memory space
  · rw [entered]
    exact runs.coupled.settled.writesWithin_trap runs.owns runs.held frame address

/-- A store writes where the running environment may write, or faults. -/
theorem writesWithin_store (runs : machine.Runs slot space) (va : Address) (data : List UInt8) :
    machine.kernel.memory.WritesWithin space (machine.store va data).2.kernel.memory := by
  have resolved := machine.kernel_resolveRange true va data.length
  unfold store
  split
  · rename_i next refused
    rw [refused] at resolved
    rcases resolved with same | ⟨frame, address, entered⟩
    · rw [same]
      exact .refl machine.kernel.memory space
    · rw [entered]
      exact runs.coupled.settled.writesWithin_trap runs.owns runs.held frame address
  · rename_i used next granted
    obtain ⟨rfl, active, passed⟩ := resolveRange_ok granted
    rw [runs.active, Option.some.injEq] at active
    subst active
    -- The processor has looked at the entry of each byte, and found both flags in it.
    refine .copyOut fun offset inside entry found => ?_
    obtain ⟨looked, seen, searched, -, mapped, allowed⟩ :=
      refusal?_eq_none.mp (passed offset inside)
    rw [runs.active, Option.some.injEq] at searched
    rw [← searched, found, Option.some.injEq] at mapped
    exact mapped ▸ allowed

/-- Whatever the running environment does, it writes where its space lets it write. -/
theorem writesWithin_ownStep (runs : machine.Runs slot space) {next : Kernel}
    (step : machine.OwnStep next) : machine.kernel.memory.WritesWithin space next.memory := by
  have settled := runs.coupled.settled
  have trap := settled.writesWithin_trap runs.owns runs.held
  cases step with
  | trap frame user address => exact trap frame address
  | @event event own =>
    -- A load, a call and an exception enter the kernel at most once, and write nothing themselves.
    cases event with
    | load va length =>
      simp only [step]
      rcases machine.kernel_load va length with same | ⟨frame, address, entered⟩
      · rw [same]
        exact .refl machine.kernel.memory space
      · rw [entered]
        exact trap frame address
    | store va data => exact runs.writesWithin_store va data
    | syscall call words =>
      rw [step_syscall runs.cpu_eq, kernel_apply]
      exact trap _ 0
    | setContext context =>
      simp only [step, Machine.setContext]
      split <;> exact .refl machine.kernel.memory space
    | exception vector code => exact runs.writesWithin_raise vector code 0
    | interrupt line => exact runs.writesWithin_raise (TrapVector.irqBase + line) 0 0
    | _ => simp [MachineEvent.isOwn] at own

end Runs

/--
In every state of a machine, a step of the running environment leaves each frame alone that is in
use and not writable in the environment's own space.
-/
theorem writeConfined_after (config : Config) (events : List MachineEvent) (id : EnvId)
    (running : (after config events).current = some id) :
    (after config events).WriteConfined id := by
  -- What holds of every running environment holds of this one.
  have coupled := coupled_after config events
  generalize after config events = machine at coupled running
  obtain ⟨slot, space, runs, rfl⟩ := coupled.runs_of_running running
  intro next step frame referenced unwritable
  exact runs.writesWithin_ownStep step frame (coupled.settled.memory.not_mem_free referenced)
    fun writable => unwritable ⟨space, runs.space?_eq, writable⟩

/-- A program with text and data cannot change its text, not even by a store to its data. -/
theorem writeConfined_text :
    let machine := after { frames := 12 } [.create ⟨0, []⟩,
      .create ⟨textStart, [⟨textStart, [195], 1, false⟩, ⟨textStart + pageSize, [], 1, true⟩]⟩,
      .boot]
    machine.current = some ⟨4097⟩ ∧ 0 < machine.kernel.memory.pool.refs 4 ∧
      ¬machine.kernel.MayWrite ⟨4097⟩ 4 ∧
      (machine.step (.store (textStart + pageSize) [1])).kernel.memory.pool.page 4 =
        machine.kernel.memory.pool.page 4 := by
  intro machine
  have running : machine.current = some ⟨4097⟩ := by decide +kernel
  have referenced : 0 < machine.kernel.memory.pool.refs 4 := by decide +kernel
  -- The one page that it may write to has another frame.
  have unwritable : ¬machine.kernel.MayWrite ⟨4097⟩ 4 := by
    rintro ⟨space, -, writable⟩
    exact Memory.not_mapsWritable_of_all (by decide +kernel) writable.mapsWritable
  have confined : machine.WriteConfined ⟨4097⟩ := writeConfined_after _ _ ⟨4097⟩ running
  have store : machine.OwnStep (machine.step (.store (textStart + pageSize) [1])).kernel :=
    .event rfl
  exact ⟨running, referenced, unwritable, confined _ store 4 referenced unwritable⟩

end Machine

end Exokernel
