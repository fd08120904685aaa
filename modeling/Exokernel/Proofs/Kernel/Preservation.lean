import Exokernel.Proofs.Kernel.Lifecycle
import Exokernel.Proofs.Kernel.Trap

/-! No step of a kernel entry makes the parts of the kernel disagree. -/

namespace Exokernel.Kernel

variable {kernel next : Kernel} {slot owner : Slot} {space : SpaceHandle}

/-- Only the states of an environment that exists can be asked for. -/
theorem settableStatus_ok {word : Word} {status : Status}
    (settable : settableStatus word = .ok status) :
    status = .runnable ∨ status = .notRunnable := by
  -- Of the four states two are refused.
  unfold settableStatus at settable
  split at settable
  · exact .inl (Except.ok.inj settable).symm
  · exact .inr (Except.ok.inj settable).symm
  · simp at settable

namespace Consistent

/-- There are at most as many address spaces as environments. -/
theorem spaceCount_le (consistent : kernel.Consistent) : kernel.memory.spaceCount ≤ slotCount := by
  -- Count the spaces by their handles, and map slots onto them.
  have counted : kernel.memory.spaceCount = ((Finset.range kernel.memory.spaces.size).filter
      fun index => (kernel.memory.table? ⟨index⟩).isSome = true).card := by
    rw [Memory.spaceCount, Memory.total, Finset.card_filter]
    refine Finset.sum_congr rfl fun index _ => ?_
    cases kernel.memory.table? ⟨index⟩ <;> rfl
  -- Each space is reached from the slot of the environment that it belongs to.
  let spaceIndex (slot : Slot) : Nat := ((kernel.envAt slot).space.map SpaceHandle.index).getD 0
  have reached : Set.SurjOn spaceIndex (Finset.univ : Finset Slot)
      ((Finset.range kernel.memory.spaces.size).filter
        fun index => (kernel.memory.table? ⟨index⟩).isSome = true) := by
    intro index member
    have exists_ := (Finset.mem_filter.mp member).2
    obtain ⟨slot, held⟩ := consistent.owned ⟨index⟩ exists_
    exact ⟨slot, Finset.mem_coe.mpr (Finset.mem_univ slot), by simp [spaceIndex, held]⟩
  rw [counted]
  exact (Finset.card_le_card_of_surjOn spaceIndex reached).trans_eq (Finset.card_fin slotCount)

/-- A counter always has room for one more mapping. -/
theorem room (consistent : kernel.Consistent) :
    kernel.memory.leaves.card + 1 < addressCount := by
  -- So many spaces with so many pages each stay below the limit of a counter.
  have spaces : kernel.memory.spaceCount ≤ 1024 := consistent.spaceCount_le
  have pages : kernel.memory.leaves.card ≤ kernel.memory.spaceCount * 977920 :=
    consistent.memory.card_leaves_le
  show kernel.memory.leaves.card + 1 < 4294967296
  omega

/-- Mapping a page that is mapped already keeps the kernel consistent. -/
theorem applyPlanned (consistent : kernel.Consistent) {planned : PlannedMapping}
    (member : planned.frame ∈ kernel.memory.leaves) :
    { kernel with memory := (planned.apply kernel.memory).2 }.Consistent := by
  -- The frame is mapped at the source, so one more mapping of it can be counted.
  have outside := Memory.sameOutside_map kernel.memory planned.space planned.va planned.frame
    planned.flags
  exact consistent.setMemory (consistent.memory.map_shared member consistent.room _ _ _)
    outside.isSome_eq outside.active_eq

/-- Removing a mapping keeps the kernel consistent. -/
theorem unmap (consistent : kernel.Consistent) (handle : SpaceHandle) (va : Address) :
    { kernel with memory := (kernel.memory.unmap handle va).2 }.Consistent := by
  -- Only pages of one space change, and no space comes or goes.
  have outside := Memory.sameOutside_unmap kernel.memory handle va
  exact consistent.setMemory (consistent.memory.unmap handle va) outside.isSome_eq
    outside.active_eq

/-- Writing bytes keeps the kernel consistent. -/
theorem copyOut (consistent : kernel.Consistent) (handle : SpaceHandle) (va : Address)
    (bytes : List UInt8) :
    { kernel with memory := (kernel.memory.copyOut handle va bytes).2 }.Consistent := by
  -- Only bytes of frames change.
  have outside := Memory.sameOutside_copyOut kernel.memory handle handle va bytes
  exact consistent.setMemory (consistent.memory.copyOut handle va bytes) outside.isSome_eq
    outside.active_eq

/-- Mapping a fresh page keeps the kernel consistent. -/
theorem mapFresh (consistent : kernel.Consistent) (handle : SpaceHandle) (va : Address)
    (flags : PageFlags) :
    { kernel with memory := (kernel.memory.mapFresh handle va flags).2 }.Consistent := by
  -- Only pages of one space change, and no space comes or goes.
  have outside := Memory.sameOutside_mapFresh kernel.memory handle va flags
  exact consistent.setMemory (consistent.memory.mapFresh handle va flags) outside.isSome_eq
    outside.active_eq

/-- An environment that may be changed by the owner of the processor exists. -/
theorem isLive_of_findOwned (consistent : kernel.Consistent) (owns : kernel.current = some owner)
    {id : EnvId} (found : kernel.findOwned id = .ok slot) :
    (kernel.envAt slot).isLive = true := by
  -- The owner exists because it runs, and a child because it was found.
  rw [findOwned, owns] at found
  rcases EnvTable.findOwned_ok found with rfl | ⟨live, -⟩
  · exact (consistent.running slot owns).1
  · exact live

/-- An environment that waits for a message exists and is not the one that runs. -/
theorem waiting_ne (ready : (kernel.envAt owner).isRunnable = true)
    (waits : (kernel.envAt slot).awaitsMessage = true) :
    (kernel.envAt slot).isLive = true ∧ slot ≠ owner := by
  -- Whoever waits is blocked, and whoever runs is not.
  refine ⟨Env.isLive_of_awaitsMessage waits, ?_⟩
  rintro rfl
  simp_all [Env.awaitsMessage, Env.isRunnable]

/-- Placing the page of a message keeps the kernel consistent. -/
theorem placePage (consistent : kernel.Consistent) (owns : kernel.current = some owner)
    (ready : (kernel.envAt owner).isRunnable = true) {request : SendRequest} {delivery : Delivery}
    (resolved : kernel.resolveSend request = .ok delivery) :
    { kernel with memory := (delivery.placePage kernel.memory).2 }.Consistent := by
  -- The old mapping goes first, then the new one is made from the sender's frame.
  obtain ⟨-, waits, -, -, paged⟩ := resolveSend_ok owns resolved
  unfold Delivery.placePage
  cases carried : delivery.page with
  | none => exact consistent
  | some planned =>
    rw [carried] at paged
    obtain ⟨sourceSpace, flags, -, sending, taking, -, offers⟩ := resolvePage_some paged
    obtain ⟨live, different⟩ := waiting_ne ready waits
    obtain ⟨handle, same, exists_⟩ := consistent.owns delivery.receiver live
    rw [taking, Option.some.injEq] at same
    subst same
    obtain ⟨table, found⟩ := Option.isSome_iff_exists.mp exists_
    have apart : sourceSpace ≠ planned.space := by
      rintro rfl
      exact different (consistent.distinct delivery.receiver owner _ taking sending)
    have cleared := Memory.unmap_spec found planned.va
    have unmapped := consistent.unmap planned.space planned.va
    -- The frame stays mapped at the sender, so it is still one that may be mapped.
    have member : planned.frame ∈ (kernel.memory.unmap planned.space planned.va).2.leaves := by
      have kept : (kernel.memory.unmap planned.space planned.va).2.entryAt? sourceSpace
          request.sourceVa = some { frame := planned.frame, flags } := by
        rw [Memory.entryAt?, (Memory.sameOutside_unmap kernel.memory _ _).others _ apart]
        exact offers.mapped
      exact Memory.mem_leaves kept
    have placed := unmapped.applyPlanned member
    simp only [PlannedMapping.replace]
    rw [cleared] at placed ⊢
    exact placed

/-- The word that answers a system call changes nothing that the kernel relies on. -/
theorem answered (consistent : kernel.Consistent) (answer : Option Word) :
    (kernel.answered answer).Consistent := by
  -- The word goes to a register of the owner, if there is one.
  rcases kernel.answered_cases answer with same | ⟨owner, value, owns, same⟩ <;> rw [same]
  · exact consistent
  · obtain ⟨live, -⟩ := consistent.running owner owns
    exact consistent.modifyEnv live
      ⟨consistent.envs.status_cases live, rfl, rfl, id, fun _ => .inl⟩

/-- Whatever a trap does, the kernel stays consistent. -/
theorem effect (consistent : kernel.Consistent) (owns : kernel.current = some owner)
    (ready : (kernel.envAt owner).isRunnable = true) {frame : TrapFrame} {address : Address}
    {acted : Kernel} {answer : Option Word}
    (effect : Effect kernel owner frame address acted answer) : acted.Consistent := by
  -- One case for each effect; they change one environment, one space, or neither.
  have live := Env.isLive_of_isRunnable ready
  cases effect with
  | nothing => exact consistent
  | breakpoint => exact consistent.congr rfl rfl rfl rfl rfl
  | tick => exact consistent.congr rfl rfl rfl rfl rfl
  | console => exact consistent.congr rfl rfl rfl rfl rfl
  | fault planned recorded =>
    rename_i delivery memory
    have written := consistent.copyOut delivery.space delivery.recordAt
      (FaultRecord.ofFrame frame address).encode
    rw [recorded] at written
    exact written.modifyEnv live ⟨consistent.envs.status_cases live, rfl, rfl, id, fun _ => .inl⟩
  | exit => exact consistent.freeEnv live (by rw [if_pos owns])
  | destroy request found other =>
    rename_i words child
    have elsewhere : kernel.current ≠ some child := by simpa [owns] using Ne.symm other
    exact consistent.freeEnv (consistent.isLive_of_findOwned owns found) (by rw [if_neg elsewhere])
  | setStatus request settable found =>
    exact consistent.modifyEnv (consistent.isLive_of_findOwned owns found)
      ⟨settableStatus_ok settable, rfl, rfl, id, fun _ => .inl⟩
  | setFaultEntry faultEntry request found =>
    have target := consistent.isLive_of_findOwned owns found
    exact consistent.modifyEnv target
      ⟨consistent.envs.status_cases target, rfl, rfl, id, fun _ => .inl⟩
  | receive request resolved =>
    refine consistent.modifyEnv live ⟨.inr rfl, rfl, rfl, id, fun va wanted => .inr ?_⟩
    simp only [Env.waiting] at wanted
    exact resolveLanding_ok (wanted ▸ resolved)
  | allocPage => exact consistent.mapFresh _ _ _
  | mapPage value request resolved =>
    obtain ⟨-, -, sourceSpace, held, -, -, -, -, -, -, offers⟩ := resolveMap_ok resolved
    exact consistent.applyPlanned (Memory.mem_leaves offers.mapped)
  | unmapPage => exact consistent.unmap _ _
  | deliver value request resolved placed =>
    have landed := consistent.placePage owns ready resolved
    -- Whoever waits for a message is alive, and its record may change.
    obtain ⟨-, waits, -⟩ := resolveSend_ok owns resolved
    rw [placed] at landed
    exact landed.modifyEnv (waiting_ne ready waits).1 ⟨.inl rfl, rfl, rfl, id, fun _ => .inl⟩
  | undelivered request resolved unplaced =>
    have landed := consistent.placePage owns ready resolved
    rwa [unplaced] at landed
  | fork value request allocated =>
    have made := consistent.allocEnv_ok allocated
    have child := envAt_allocEnv allocated
    refine made.modifyEnv (by rw [child, if_pos rfl]; rfl)
      ⟨.inr rfl, rfl, rfl, fun _ => ?_, fun _ => .inl⟩
    exact consistent.userMode owner live
  | unforked request refused => exact consistent.allocEnv_error refused

/-- Saving the registers of a trap changes nothing that the kernel relies on. -/
theorem saved (consistent : kernel.Consistent) (live : (kernel.envAt owner).isLive = true)
    {frame : TrapFrame} (user : frame.fromUser = true) : (kernel.saved owner frame).Consistent :=
  consistent.modifyEnv live
    ⟨consistent.envs.status_cases live, rfl, rfl, fun _ => user, fun _ => .inl⟩

/-- Giving the processor to an environment that can run settles the kernel. -/
theorem dispatched (consistent : kernel.Consistent)
    (ready : (kernel.envAt slot).isRunnable = true) : (kernel.dispatched slot).Settled := by
  -- Only the owner of the processor and the space in use are new.
  have live := Env.isLive_of_isRunnable ready
  have counted : (kernel.modifyEnv slot fun env => { env with runs := env.runs + 1 }).Consistent :=
    consistent.modifyEnv live ⟨consistent.envs.status_cases live, rfl, rfl, id, fun _ => .inl⟩
  have here := kernel.envAt_modifyEnv slot slot fun env => { env with runs := env.runs + 1 }
  rw [if_pos rfl] at here
  refine
    { memory := counted.memory.activate _
      envs := counted.envs
      owns := counted.owns
      owned := counted.owned
      distinct := counted.distinct
      userMode := counted.userMode
      landing := counted.landing
      running := fun other current => ?_
      idle := fun unowned => absurd unowned (Option.some_ne_none slot)
      ready := fun other current => ?_ }
  · obtain rfl := Option.some.inj current
    show ((kernel.modifyEnv slot _).envAt slot).isLive = true ∧ some slot = some slot ∧
      (kernel.envAt slot).space = ((kernel.modifyEnv slot _).envAt slot).space
    rw [here]
    exact ⟨live, rfl, rfl⟩
  · obtain rfl := Option.some.inj current
    show ((kernel.modifyEnv slot _).envAt slot).isRunnable = true
    rw [here]
    exact ready

/-- A stopped kernel is settled, with no owner of the processor. -/
theorem halt (consistent : kernel.Consistent) (reason : Halt) :
    (kernel.halt reason).2.Settled where
  memory := consistent.memory.activate none
  envs := consistent.envs
  owns := consistent.owns
  owned := consistent.owned
  distinct := consistent.distinct
  userMode := consistent.userMode
  landing := consistent.landing
  running _ current := absurd current.symm (Option.some_ne_none _)
  idle _ := rfl
  ready _ current := absurd current.symm (Option.some_ne_none _)

/-- However a kernel entry ends, the kernel is settled. -/
theorem ends (consistent : kernel.Consistent) {outcome : Dispatch × Kernel}
    (ends : kernel.Ends outcome) : outcome.2.Settled := by
  -- The processor is given to somebody who can run, or switched off.
  cases ends with
  | resume slot ready => exact consistent.dispatched ready
  | idle => exact consistent.halt .idle

end Consistent

end Exokernel.Kernel
