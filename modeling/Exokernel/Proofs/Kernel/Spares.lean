import Exokernel.Proofs.Kernel.Messages

/-! What a trap does to the environments that did not trap. -/

namespace Exokernel

namespace Kernel

/-- An environment and everything mapped in its space are the same in two states. -/
structure Spares (kernel next : Kernel) (slot : Slot) : Prop where
  /-- The slot holds the same. -/
  env_eq : next.envAt slot = kernel.envAt slot
  /-- The page table of its space is the same. -/
  table_eq : ∀ space, (kernel.envAt slot).space = some space →
    next.memory.table? space = kernel.memory.table? space

variable {kernel next : Kernel} {slot owner other : Slot} {frame : TrapFrame} {address : Address}

namespace Spares

/-- A slot is spared by what does nothing. -/
theorem refl (kernel : Kernel) (slot : Slot) : Spares kernel kernel slot :=
  ⟨rfl, fun _ _ => rfl⟩

/-- A slot that is spared twice is spared. -/
theorem trans {first second third : Kernel} (before : Spares first second slot)
    (after : Spares second third slot) : Spares first third slot where
  env_eq := after.env_eq.trans before.env_eq
  table_eq space held := by
    -- Its space is the same in between.
    rw [after.table_eq space (by rw [before.env_eq, held]), before.table_eq space held]

/-- A change of one environment spares all others. -/
theorem modifyEnv (kernel : Kernel) (change : Env → Env) (different : other ≠ slot) :
    Spares kernel (kernel.modifyEnv slot change) other where
  env_eq := by rw [envAt_modifyEnv, if_neg different]
  table_eq _ _ := rfl

/-- A change of one space spares the environments that have another one. -/
theorem setMemory {handle : SpaceHandle} {memory : Memory}
    (outside : Memory.SameOutside handle kernel.memory memory)
    (apart : (kernel.envAt other).space ≠ some handle) :
    Spares kernel { kernel with memory } other where
  env_eq := rfl
  table_eq space held := outside.others space fun same => apart (same ▸ held)

/-- A change of pages alone spares everybody. -/
theorem setTables {memory : Memory}
    (same : ∀ handle, memory.table? handle = kernel.memory.table? handle) :
    Spares kernel { kernel with memory } other where
  env_eq := rfl
  table_eq space _ := same space

/-- The word that answers a system call spares all but the caller. -/
theorem answered (kernel : Kernel) (answer : Option Word)
    (different : kernel.current ≠ some other) :
    Spares kernel (kernel.answered answer) other := by
  -- The word is written to the owner of the processor, who is somebody else.
  rcases kernel.answered_cases answer with same | ⟨owner, value, owns, same⟩ <;> rw [same]
  · exact refl kernel other
  · refine modifyEnv kernel _ ?_
    rintro rfl
    exact different owns

end Spares

/-- An environment that cannot be created has cost the others nothing. -/
theorem spares_allocEnv_error {parent : EnvId} {error : SysError}
    (refused : kernel.allocEnv parent = (.error error, next)) : Spares kernel next other := by
  -- At most frames of the pool have moved.
  rcases Kernel.allocEnv_error refused with rfl | ⟨cause, memory, failed, rfl⟩
  · exact .refl next other
  · obtain ⟨spaces, -⟩ := Memory.createSpace_error_spec failed
    exact .setTables fun handle => Memory.table?_congr spaces handle

/-- A slot that the owner of the processor may change is not the one of a stranger. -/
theorem ne_of_findOwned (owns : kernel.current = some owner) (different : other ≠ owner)
    (stranger : (kernel.envAt other).parent ≠ (kernel.envAt owner).id) {id : EnvId}
    (found : kernel.findOwned id = .ok slot) : other ≠ slot := by
  -- Whatever the id is, it leads to the owner or to one of its children.
  rw [findOwned, owns] at found
  rcases EnvTable.findOwned_ok found with rfl | ⟨-, child⟩
  · exact different
  · rintro rfl
    exact stranger child

namespace Consistent

/-- Destroying an environment spares all others. -/
theorem spares_freeEnv (consistent : kernel.Consistent)
    (live : (kernel.envAt slot).isLive = true) (different : other ≠ slot) :
    Spares kernel (kernel.freeEnv slot) other where
  env_eq := by rw [envAt_freeEnv, if_neg different]
  table_eq space held := by
    obtain ⟨handle, owned, -⟩ := consistent.owns slot live
    -- No two environments have the same space.
    have apart : space ≠ handle := by
      rintro rfl
      exact different (consistent.distinct other slot space held owned)
    rw [table?_freeEnv owned, if_neg apart]

/-- Creating an environment spares the ones that exist. -/
theorem spares_allocEnv (consistent : kernel.Consistent) {parent : EnvId} {space : SpaceHandle}
    (allocated : kernel.allocEnv parent = (.ok (slot, space), next))
    (live : (kernel.envAt other).isLive = true) : Spares kernel next other := by
  -- The new slot and the new handle were both unused.
  have dead := consistent.not_isLive_of_allocEnv allocated
  have different : other ≠ slot := by
    rintro rfl
    simp [dead] at live
  refine ⟨by rw [envAt_allocEnv allocated, if_neg different], fun handle held => ?_⟩
  obtain ⟨rest, memory, -, created, rfl⟩ := Kernel.allocEnv_ok allocated
  obtain ⟨vacant, -, others, -⟩ := Memory.createSpace_ok_spec created
  obtain ⟨named, same, exists_⟩ := consistent.owns other live
  rw [held, Option.some.injEq] at same
  refine others handle ?_
  rintro rfl
  rw [← same, vacant] at exists_
  simp at exists_

/-- The space of an environment is not the one of any other. -/
theorem space_ne (consistent : kernel.Consistent) {space : SpaceHandle} (different : other ≠ slot)
    (held : (kernel.envAt slot).space = some space) : (kernel.envAt other).space ≠ some space :=
  fun same => different (consistent.distinct other slot space same held)

/-- The page of a message goes to the receiver, and spares all others. -/
theorem spares_placePage (consistent : kernel.Consistent) (owns : kernel.current = some owner)
    {request : SendRequest} {delivery : Delivery}
    (resolved : kernel.resolveSend request = .ok delivery) (different : other ≠ delivery.receiver) :
    Spares kernel { kernel with memory := (delivery.placePage kernel.memory).2 } other := by
  -- The page is placed in the receiver's space, which belongs to nobody else.
  obtain ⟨-, -, -, -, paged⟩ := resolveSend_ok owns resolved
  unfold Delivery.placePage
  cases carried : delivery.page with
  | none => exact .refl kernel other
  | some planned =>
    rw [carried] at paged
    obtain ⟨-, -, -, -, taking, -⟩ := resolvePage_some paged
    exact .setMemory (planned.sameOutside_replace kernel.memory)
      (consistent.space_ne different taking)

/-- A page that cannot be placed leaves all memory alone, the receiver's included. -/
theorem intact_placePage (consistent : kernel.Consistent)
    (owns : kernel.current = some owner) {request : SendRequest} {delivery : Delivery}
    {memory : Memory} {error : SysError} (resolved : kernel.resolveSend request = .ok delivery)
    (unplaced : delivery.placePage kernel.memory = (.error error, memory)) :
    kernel.memory.Intact memory := by
  -- The landing page is a user page, so the failure left its old mapping in place.
  obtain ⟨-, -, -, -, paged⟩ := resolveSend_ok owns resolved
  unfold Delivery.placePage at unplaced
  cases carried : delivery.page with
  | none => simp [carried] at unplaced
  | some planned =>
    rw [carried] at paged unplaced
    obtain ⟨-, -, landing, -⟩ := resolvePage_some paged
    obtain ⟨aligned, below⟩ := consistent.landing _ _ landing
    exact planned.replace_error consistent.memory aligned below unplaced

/--
A trap spares every environment but the one that trapped and its children, unless a message is
delivered to it.
-/
theorem effect_spares (consistent : kernel.Consistent) (owns : kernel.current = some owner)
    (ready : (kernel.envAt owner).isRunnable = true) (live : (kernel.envAt other).isLive = true)
    (different : other ≠ owner) (stranger : (kernel.envAt other).parent ≠ (kernel.envAt owner).id)
    {acted : Kernel} {answer : Option Word}
    (effect : Effect kernel owner frame address acted answer) : Spares kernel acted other ∨
      ∃ words delivery memory, frame.Requests .trySend words ∧
        kernel.resolveSend (.ofArguments words) = .ok delivery ∧
        delivery.placePage kernel.memory = (.ok (), memory) ∧ delivery.receiver = other ∧
        acted = { kernel with memory }.modifyEnv other delivery.accept := by
  -- One case for each effect: it stays with the owner, its children, or the receiver.
  have ownerLive := Env.isLive_of_isRunnable ready
  cases effect with
  | nothing => exact .inl (.refl kernel other)
  | breakpoint => exact .inl ⟨rfl, fun _ _ => rfl⟩
  | tick => exact .inl ⟨rfl, fun _ _ => rfl⟩
  | console => exact .inl ⟨rfl, fun _ _ => rfl⟩
  | fault planned recorded =>
    rename_i delivery memory
    have written := kernel.memory.spaces_copyOut delivery.space delivery.recordAt
      (FaultRecord.ofFrame frame address).encode
    rw [recorded] at written
    have spared : Spares kernel { kernel with memory } other :=
      .setTables fun handle => Memory.table?_congr written.1 handle
    exact .inl (spared.trans (.modifyEnv _ _ different))
  | exit =>
    have spared := consistent.spares_freeEnv ownerLive different
    exact .inl ⟨spared.env_eq, spared.table_eq⟩
  | destroy request found child =>
    exact .inl (consistent.spares_freeEnv (consistent.isLive_of_findOwned owns found)
      (ne_of_findOwned owns different stranger found))
  | setStatus request settable found =>
    exact .inl (.modifyEnv _ _ (ne_of_findOwned owns different stranger found))
  | setFaultEntry faultEntry request found =>
    exact .inl (.modifyEnv _ _ (ne_of_findOwned owns different stranger found))
  | receive => exact .inl (.modifyEnv _ _ different)
  | allocPage value request resolved =>
    obtain ⟨slot, found, held, -⟩ := resolveAlloc_ok resolved
    have apart := ne_of_findOwned owns different stranger found
    exact .inl (.setMemory (kernel.memory.sameOutside_mapFresh _ _ _)
      (consistent.space_ne apart held))
  | mapPage value request resolved =>
    obtain ⟨-, slot, -, -, -, found, -, held, -⟩ := resolveMap_ok resolved
    have apart := ne_of_findOwned owns different stranger found
    exact .inl (.setMemory (kernel.memory.sameOutside_map _ _ _ _)
      (consistent.space_ne apart held))
  | unmapPage value request resolved =>
    obtain ⟨slot, found, held, -⟩ := resolveUnmap_ok resolved
    have apart := ne_of_findOwned owns different stranger found
    exact .inl (.setMemory (kernel.memory.sameOutside_unmap _ _)
      (consistent.space_ne apart held))
  | deliver value request resolved placed =>
    rename_i words delivery memory
    by_cases receives : delivery.receiver = other
    · exact .inr ⟨words, delivery, memory, request, resolved, placed, receives, receives ▸ rfl⟩
    · have spared := consistent.spares_placePage owns resolved (Ne.symm receives)
      rw [placed] at spared
      exact .inl (spared.trans (.modifyEnv _ _ (Ne.symm receives)))
  | undelivered request resolved unplaced =>
    exact .inl (.setTables (consistent.intact_placePage owns resolved unplaced).tables)
  | fork value request allocated =>
    have dead := consistent.not_isLive_of_allocEnv allocated
    have spared := consistent.spares_allocEnv allocated live
    refine .inl (spared.trans (.modifyEnv _ _ ?_))
    rintro rfl
    simp [dead] at live
  | unforked request refused => exact .inl (spares_allocEnv_error refused)

end Consistent

end Kernel

end Exokernel
