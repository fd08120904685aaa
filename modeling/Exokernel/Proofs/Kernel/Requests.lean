import Exokernel.Kernel.Messages
import Exokernel.Proofs.Env.Table

/-! What is known once a request was found acceptable. -/

namespace Exokernel

/-- A chain of checks succeeds when its first check does, and then the rest. -/
theorem bind_eq_ok {ε α β : Type} {first : Except ε α} {rest : α → Except ε β} {result : β} :
    (first >>= rest) = .ok result ↔ ∃ value, first = .ok value ∧ rest value = .ok result := by
  -- A first check that fails is the end of the chain.
  cases first <;> simp [bind, Except.bind]

/-- A checked page starts at the address that was given. -/
theorem checkPage_ok {va : Address} {page : UserPage} (checked : checkPage va = .ok page) :
    page.address = va := by
  -- A page that passes both tests has the address that was tested.
  simp only [checkPage, UserPage.ofAddress?] at checked
  split at checked
  · rename_i found same
    split at same
    · split at same
      · simp only [Except.ok.injEq, Option.some.injEq] at checked same
        rw [← checked, ← same]
      · simp at same
    · simp at same
  · simp at checked

/-- A checked permission is the one that was given, and one that user code may ask for. -/
theorem checkPermission_ok {flags checked : PageFlags}
    (accepted : checkPermission flags = .ok checked) :
    checked = flags ∧ checked.isUserPermission = true := by
  -- The permission is tested and passed through.
  simp only [checkPermission] at accepted
  split at accepted
  · rename_i allowed
    simp only [Except.ok.injEq] at accepted
    rw [← accepted]
    exact ⟨rfl, allowed⟩
  · simp at accepted

/-- Permission to write is passed on only by somebody who has it. -/
theorem checkNoEscalation_ok {wanted held : PageFlags} {result : Unit}
    (accepted : checkNoEscalation wanted held = .ok result)
    (writes : wanted.contains .writable = true) : held.contains .writable = true := by
  -- The check fails only for a permission to write that is not held.
  simp only [checkNoEscalation, writes, Bool.true_and] at accepted
  split at accepted
  · simp at accepted
  · rename_i covered
    simpa using covered

/-- A page of a space has the frame of a planned mapping, and may be passed on for it. -/
structure Memory.Offers (memory : Memory) (space : SpaceHandle) (va : Address)
    (planned : PlannedMapping) (held : PageFlags) : Prop where
  /-- The frame is mapped at the page. -/
  mapped : memory.entryAt? space va = some { frame := planned.frame, flags := held }
  /-- Permission to write is not gained on the way. -/
  covered : planned.flags.contains .writable = true → held.contains .writable = true
  /-- User code may ask for the permission. -/
  allowed : planned.flags.isUserPermission = true

namespace Kernel

variable {kernel : Kernel} {space : SpaceHandle} {page : UserPage} {flags : PageFlags}

/-- The space of an environment is the one that its slot names. -/
theorem spaceOf_ok {slot : Slot} : kernel.spaceOf slot = .ok space ↔
    (kernel.envAt slot).space = some space := by
  -- A slot without a space is an error.
  unfold spaceOf
  split <;> simp_all

/-- A frame that may be passed on is mapped at the page, for writing if it is passed on so. -/
theorem shareable_ok {frame : FrameNumber}
    (shared : kernel.shareable space page flags = .ok frame) :
    ∃ held, kernel.memory.entryAt? space page.address = some { frame, flags := held } ∧
      (flags.contains .writable = true → held.contains .writable = true) := by
  -- The flags are compared only where an entry is found.
  simp only [shareable] at shared
  split at shared
  · rename_i entry found
    simp only [bind_eq_ok, pure, Except.pure, Except.ok.injEq] at shared
    obtain ⟨checked, accepted, rfl⟩ := shared
    exact ⟨entry.flags, found, checkNoEscalation_ok accepted⟩
  · simp [throw, throwThe, MonadExceptOf.throw] at shared

/-- A fresh page goes to the space of an environment that the caller may change. -/
theorem resolveAlloc_ok {request : AllocRequest}
    (resolved : kernel.resolveAlloc request = .ok (space, page, flags)) :
    ∃ slot, kernel.findOwned request.target = .ok slot ∧ (kernel.envAt slot).space = some space ∧
      page.address = request.va ∧ flags = request.flags ∧ flags.isUserPermission = true := by
  -- The target is looked up first, and its space last.
  simp only [resolveAlloc, AllocRequest.check, bind_eq_ok, spaceOf_ok, pure, Except.pure,
    Except.ok.injEq, Prod.mk.injEq] at resolved
  obtain ⟨slot, found, _, ⟨page, placed, flags, accepted, rfl⟩, handle, held, rfl, rfl, rfl⟩ :=
    resolved
  obtain ⟨same, allowed⟩ := checkPermission_ok accepted
  exact ⟨slot, found, held, checkPage_ok placed, same, allowed⟩

/-- A page is shared between environments that the caller may change, and is mapped in one. -/
theorem resolveMap_ok {request : MapRequest} {planned : PlannedMapping}
    (resolved : kernel.resolveMap request = .ok planned) :
    ∃ source target sourceSpace held, kernel.findOwned request.source = .ok source ∧
      kernel.findOwned request.target = .ok target ∧
      (kernel.envAt source).space = some sourceSpace ∧
      (kernel.envAt target).space = some planned.space ∧
      planned.va = request.targetVa ∧ planned.flags = request.flags ∧
      kernel.memory.Offers sourceSpace request.sourceVa planned held := by
  -- The chain looks up both ends, and then the entry at the source.
  simp only [resolveMap, MapRequest.check, bind_eq_ok, spaceOf_ok, pure, Except.pure,
    Except.ok.injEq] at resolved
  obtain ⟨source, sourceFound, target, targetFound, _, ⟨sourcePage, sourcePlaced, targetPage,
    targetPlaced, flags, accepted, rfl⟩, sourceSpace, sourceHeld, space, targetHeld, frame, shared,
    rfl⟩ := resolved
  obtain ⟨held, mapped, covered⟩ := shareable_ok shared
  obtain ⟨same, allowed⟩ := checkPermission_ok accepted
  rw [checkPage_ok sourcePlaced] at mapped
  exact ⟨source, target, sourceSpace, held, sourceFound, targetFound, sourceHeld, targetHeld,
    checkPage_ok targetPlaced, same, mapped, covered, allowed⟩

/-- A mapping is removed from the space of an environment that the caller may change. -/
theorem resolveUnmap_ok {request : UnmapRequest}
    (resolved : kernel.resolveUnmap request = .ok (space, page)) :
    ∃ slot, kernel.findOwned request.target = .ok slot ∧ (kernel.envAt slot).space = some space ∧
      page.address = request.va := by
  -- The target is looked up first, and its space last.
  simp only [resolveUnmap, bind_eq_ok, spaceOf_ok, pure, Except.pure, Except.ok.injEq,
    Prod.mk.injEq] at resolved
  obtain ⟨slot, found, page, placed, handle, held, rfl, rfl⟩ := resolved
  exact ⟨slot, found, held, checkPage_ok placed⟩

/-- The page of a message is mapped at the sender and lands where the receiver wants it. -/
theorem resolvePage_some {sender receiver : Slot} {request : SendRequest}
    {planned : PlannedMapping}
    (resolved : kernel.resolvePage sender receiver request = .ok (some planned)) :
    ∃ sourceSpace held, (kernel.envAt receiver).mailbox.landing = some planned.va ∧
      (kernel.envAt sender).space = some sourceSpace ∧
      (kernel.envAt receiver).space = some planned.space ∧ planned.flags = request.flags ∧
      kernel.memory.Offers sourceSpace request.sourceVa planned held := by
  -- A page travels only if the sender offers one and the receiver wants one.
  simp only [resolvePage] at resolved
  split at resolved
  · split at resolved
    · rename_i landing wanted
      simp only [bind_eq_ok, spaceOf_ok, pure, Except.pure, Except.ok.injEq,
        Option.some.injEq] at resolved
      obtain ⟨page, checked, flags, accepted, sourceSpace, sending, space, taking, frame, shared,
        rfl⟩ := resolved
      obtain ⟨held, mapped, covered⟩ := shareable_ok shared
      obtain ⟨same, allowed⟩ := checkPermission_ok accepted
      rw [checkPage_ok checked] at mapped
      exact ⟨sourceSpace, held, wanted, sending, taking, same, mapped, covered, allowed⟩
    · simp [pure, Except.pure] at resolved
  · simp [pure, Except.pure] at resolved

/-- A message goes from the owner of the processor to an environment that waits for one. -/
theorem resolveSend_ok {request : SendRequest} {delivery : Delivery} {owner : Slot}
    (owns : kernel.current = some owner)
    (resolved : kernel.resolveSend request = .ok delivery) :
    kernel.envs.find request.target (some owner) = .ok delivery.receiver ∧
      (kernel.envAt delivery.receiver).awaitsMessage = true ∧
      delivery.sender = (kernel.envAt owner).id ∧ delivery.value = request.value ∧
      kernel.resolvePage owner delivery.receiver request = .ok delivery.page := by
  -- The receiver must be found and must wait before the page is looked at.
  simp only [resolveSend, Kernel.owner, owns, bind_eq_ok, Except.ok.injEq] at resolved
  obtain ⟨_, rfl, receiver, found, accepted⟩ := resolved
  split at accepted
  · rename_i waits
    simp only [bind_eq_ok, pure, Except.pure, Except.ok.injEq] at accepted
    obtain ⟨page, paged, made⟩ := accepted
    rw [← made]
    exact ⟨found, waits, rfl, rfl, paged⟩
  · -- A receiver that does not wait ends the chain.
    simp [throw, throwThe, MonadExceptOf.throw, bind, Except.bind] at accepted

/-- A message to an environment that does not wait is refused before anything else is looked at. -/
theorem resolveSend_refused {request : SendRequest} {owner receiver : Slot}
    (owns : kernel.current = some owner)
    (found : kernel.envs.find request.target (some owner) = .ok receiver)
    (idle : (kernel.envAt receiver).awaitsMessage = false) :
    kernel.resolveSend request = .error .notReceiving := by
  -- Only the target is looked up before.
  simp only [resolveSend, Kernel.owner, owns, bind, Except.bind, found, idle]
  rfl

/-- A page that a receiver is ready to take lands on a page of user memory. -/
theorem resolveLanding_ok {va landing : Address}
    (resolved : resolveLanding va = .ok (some landing)) :
    isAligned landing = true ∧ landing < userTop := by
  -- An address at or above the end of user memory stands for no page at all.
  simp only [resolveLanding] at resolved
  split at resolved
  · simp only [bind_eq_ok, pure, Except.pure, Except.ok.injEq, Option.some.injEq] at resolved
    obtain ⟨page, -, rfl⟩ := resolved
    exact ⟨page.aligned, page.below⟩
  · simp [pure, Except.pure] at resolved

end Kernel

end Exokernel
