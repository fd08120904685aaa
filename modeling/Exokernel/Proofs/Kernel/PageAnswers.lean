import Exokernel.Proofs.Kernel.Authority
import Exokernel.Proofs.Memory.Remapping

/-! Which answer a request for a page gets, as the environments and the memory decide it. -/

namespace Exokernel

/-- An address starts a page of user memory. -/
def isUserPage (va : Address) : Bool :=
  isAligned va && va < userTop

/-- A page of user memory is an aligned address below its end. -/
theorem isUserPage_iff {va : Address} :
    isUserPage va = true ↔ isAligned va = true ∧ va < userTop := by
  -- The test is the conjunction of the two.
  simp [isUserPage]

/-- A page that is no page of user memory is refused. -/
theorem checkPage_refused {va : Address} (outside : isUserPage va = false) :
    checkPage va = .error .invalid := by
  -- The end of user memory is judged first; below it only the alignment can be wrong.
  by_cases below : va < userTop
  · have unaligned : isAligned va = false := by simpa [isUserPage, below] using outside
    simp [checkPage, UserPage.ofAddress?, below, unaligned]
  · simp [checkPage, UserPage.ofAddress?, below]

/-- A page of user memory is accepted as it is. -/
theorem checkPage_accepted {va : Address} (inside : isUserPage va = true) :
    ∃ page, checkPage va = .ok page ∧ page.address = va := by
  -- Both conditions are what a checked page carries with it.
  obtain ⟨aligned, below⟩ := isUserPage_iff.mp inside
  exact ⟨⟨va, aligned, below⟩, by simp [checkPage, UserPage.ofAddress?, below, aligned], rfl⟩

/-- A request for a fresh page is refused at once, or its address and permission are in order. -/
theorem AllocRequest.check_cases (request : AllocRequest) :
    request.check = .error .invalid ∨
      ∃ page, request.check = .ok (page, request.flags) ∧
        (isUserPage request.va && request.flags.isUserPermission) = true := by
  -- The address is judged before the permission.
  cases inside : isUserPage request.va with
  | false => exact .inl (by simp [check, checkPage_refused inside, bind, Except.bind])
  | true =>
    obtain ⟨page, checked, -⟩ := checkPage_accepted inside
    cases allowed : request.flags.isUserPermission with
    | false =>
      exact .inl (by simp [check, checked, checkPermission, allowed, bind, Except.bind])
    | true =>
      exact .inr ⟨page, by simp [check, checked, checkPermission, allowed, bind, Except.bind,
        pure, Except.pure], rfl⟩

/-- A request to pass a page on is refused at once, or addresses and permission are in order. -/
theorem MapRequest.check_cases (request : MapRequest) :
    request.check = .error .invalid ∨
      ∃ source target, request.check = .ok (source, target, request.flags) ∧
        source.address = request.sourceVa ∧ isUserPage request.sourceVa = true ∧
        isUserPage request.targetVa = true ∧ request.flags.isUserPermission = true := by
  -- The checks come one after another, and each of them refuses with the same answer.
  cases sourceInside : isUserPage request.sourceVa with
  | false => exact .inl (by simp [check, checkPage_refused sourceInside, bind, Except.bind])
  | true =>
    obtain ⟨source, sourceChecked, placed⟩ := checkPage_accepted sourceInside
    cases inside : isUserPage request.targetVa with
    | false =>
      exact .inl (by simp [check, sourceChecked, checkPage_refused inside, bind, Except.bind])
    | true =>
      obtain ⟨target, checked, -⟩ := checkPage_accepted inside
      cases allowed : request.flags.isUserPermission with
      | false =>
        exact .inl (by simp [check, sourceChecked, checked, checkPermission, allowed, bind,
          Except.bind])
      | true =>
        exact .inr ⟨source, target, by simp [check, sourceChecked, checked, checkPermission,
          allowed, bind, Except.bind, pure, Except.pure], placed, rfl, rfl, rfl⟩

/-- A request to change a mapping. -/
inductive PageRequest where
  /-- To map a fresh page. -/
  | alloc (request : AllocRequest)
  /-- To map a page that is mapped elsewhere. -/
  | map (request : MapRequest)
  /-- To remove a mapping. -/
  | unmap (request : UnmapRequest)

namespace PageRequest

/-- The request that a system call makes with its arguments, if it is one for a page. -/
def ofCall? : Syscall → Arguments → Option PageRequest
  -- Each of them reads its own registers.
  | .allocPage, words => some (.alloc (.ofArguments words))
  | .mapPage, words => some (.map (.ofArguments words))
  | .unmapPage, words => some (.unmap (.ofArguments words))
  | _, _ => none

/-- The environment in which a mapping is to change. -/
def target : PageRequest → EnvId
  -- For a page that is passed on it is the receiver.
  | .alloc request => request.target
  | .map request => request.target
  | .unmap request => request.target

/-- The address at which a mapping is to change. -/
def va : PageRequest → Address
  -- Of the two addresses of a mapping it is the target's.
  | .alloc request => request.va
  | .map request => request.targetVa
  | .unmap request => request.va

/-- All environments that a request names. -/
def subjects : PageRequest → List EnvId
  | .map request => [request.source, request.target]
  | request => [request.target]

end PageRequest

namespace Kernel

variable {kernel next : Kernel} {caller slot : Slot} {words : Arguments} {request : PageRequest}
  {space : SpaceHandle}

/-- The caller may change all environments that a request names. -/
def mayChange (kernel : Kernel) (caller : Slot) (request : PageRequest) : Bool :=
  request.subjects.all fun id => (kernel.owned? caller id).isSome

/-- Addresses and permission of a request are in order, and so is the page that is passed on. -/
def isInOrder (kernel : Kernel) (caller : Slot) : PageRequest → Bool
  | .alloc request => isUserPage request.va && request.flags.isUserPermission
  -- A page that is passed on must be there, and may not gain permissions.
  | .map request =>
    isUserPage request.sourceVa && isUserPage request.targetVa &&
      (kernel.owned? caller request.source).any fun slot =>
        kernel.mayPass slot request.sourceVa request.flags
  | .unmap request => isUserPage request.va

/-- Number of frames that a request needs; one of them if there is no page table yet. -/
def framesNeeded (kernel : Kernel) (caller : Slot) (request : PageRequest) : Nat :=
  -- Only a fresh page needs a frame for itself.
  let table := (kernel.owned? caller request.target).bind fun slot =>
    kernel.tableIn slot request.va
  match request with
  | .alloc _ => (if table.isSome then 0 else 1) + 1
  | .map _ => if table.isSome then 0 else 1
  | .unmap _ => 0

/-- The answer to a request for a page; of several reasons to refuse it the first one counts. -/
def pageAnswer (kernel : Kernel) (caller : Slot) (request : PageRequest) : Except SysError Unit :=
  -- Who may change what comes first, and the frames come last.
  if !kernel.mayChange caller request then .error .badEnv
  else if !kernel.isInOrder caller request then .error .invalid
  else if !kernel.memory.pool.canSupply (kernel.framesNeeded caller request) then
    .error .outOfMemory
  else .ok ()

/-- A request succeeds exactly if nothing speaks against it. -/
theorem pageAnswer_eq_ok : kernel.pageAnswer caller request = .ok () ↔
    kernel.mayChange caller request = true ∧ kernel.isInOrder caller request = true ∧
      kernel.memory.pool.canSupply (kernel.framesNeeded caller request) = true := by
  -- Any of the three conditions that fails gives an error of its own.
  simp only [pageAnswer]
  cases kernel.mayChange caller request <;> cases kernel.isInOrder caller request <;>
    cases kernel.memory.pool.canSupply (kernel.framesNeeded caller request) <;> simp

/-- Carries out a request for a page. -/
def changePage (kernel : Kernel) : PageRequest → Except SysError Unit × Kernel
  -- Each kind of request has a call of its own.
  | .alloc request => kernel.allocPage request
  | .map request => kernel.mapPage request
  | .unmap request => kernel.unmapPage request

/-- A system call for a page carries out its request. -/
theorem perform_page {call : Syscall} (reads : PageRequest.ofCall? call words = some request) :
    kernel.perform call words = answerUnit (kernel.changePage request) := by
  -- The other calls make no such request.
  unfold PageRequest.ofCall? at reads
  split at reads
  all_goals first
    | (rw [← Option.some.inj reads]; rfl)
    | simp at reads

namespace Consistent

variable (consistent : kernel.Consistent) (owns : kernel.current = some caller)
include consistent owns

/-- An environment that the caller may change has a space. -/
theorem reaches_of_owned {id : EnvId} (named : kernel.owned? caller id = some slot) :
    ∃ space, kernel.Reaches id space ∧ (kernel.envAt slot).space = some space ∧
      (kernel.memory.table? space).isSome = true := by
  -- An environment that exists owns a space, and the table of spaces knows it.
  have found := (findOwned_eq_ok owns).mpr named
  obtain ⟨space, held, known⟩ := consistent.owns slot (consistent.isLive_of_findOwned owns found)
  exact ⟨space, ⟨slot, found, held⟩, held, known⟩

omit consistent in
/-- Who names an environment that it may not change is told that there is none. -/
theorem changePage_of_stranger (stranger : kernel.mayChange caller request = false) :
    (kernel.changePage request).1 = .error .badEnv := by
  have failed {id : EnvId} (none_ : kernel.owned? caller id = none) :
      kernel.findOwned id = .error .badEnv := by
    rw [findOwned_eq owns, none_]
  cases request with
  | alloc request =>
    simp only [mayChange, PageRequest.subjects, PageRequest.target, List.all_cons, List.all_nil,
      Bool.and_true, Option.isSome_eq_false_iff, Option.isNone_iff_eq_none] at stranger
    simp [changePage, allocPage, resolveAlloc, failed stranger, bind, Except.bind]
  | unmap request =>
    simp only [mayChange, PageRequest.subjects, PageRequest.target, List.all_cons, List.all_nil,
      Bool.and_true, Option.isSome_eq_false_iff, Option.isNone_iff_eq_none] at stranger
    simp [changePage, unmapPage, resolveUnmap, failed stranger, bind, Except.bind]
  | map request =>
    -- The source is looked up before the target.
    cases source : kernel.owned? caller request.source with
    | none => simp [changePage, mapPage, resolveMap, failed source, bind, Except.bind]
    | some slot =>
      have found := (findOwned_eq_ok owns).mpr source
      simp only [mayChange, PageRequest.subjects, List.all_cons, source, Option.isSome_some,
        List.all_nil, Bool.and_true, Bool.true_and, Option.isSome_eq_false_iff,
        Option.isNone_iff_eq_none] at stranger
      simp [changePage, mapPage, resolveMap, found, failed stranger, bind, Except.bind]

omit consistent owns in
/-- Each environment that a request names is one that the caller may change. -/
theorem owned_of_mayChange (entitled : kernel.mayChange caller request = true) {id : EnvId}
    (member : id ∈ request.subjects) : ∃ slot, kernel.owned? caller id = some slot :=
  Option.isSome_iff_exists.mp (List.all_eq_true.mp entitled id member)

omit consistent owns in
/-- A page that may not be passed on, though it lies in user memory, is not shareable. -/
theorem shareable_of_not_mayPass {page : UserPage} {flags : PageFlags}
    (held : (kernel.envAt slot).space = some space) (allowed : flags.isUserPermission = true)
    (may : kernel.mayPass slot page.address flags = false) :
    kernel.shareable space page flags = .error .invalid := by
  -- There is nothing mapped, or it would become writable on the way.
  simp only [mayPass, page.aligned, allowed, entryIn, held, Option.bind_some, Bool.true_and] at may
  cases mapped : kernel.memory.entryAt? space page.address with
  | none => simp [shareable, mapped, throw, throwThe, MonadExceptOf.throw]
  | some entry =>
    have exceeds : (flags.contains .writable && !entry.flags.contains .writable) = true := by
      simpa [mapped] using may
    simp [shareable, mapped, checkNoEscalation, exceeds, bind, Except.bind]

omit consistent in
/-- A request to unmap a page that is none is refused. -/
theorem unmapPage_of_disorder {request : UnmapRequest}
    (entitled : kernel.mayChange caller (.unmap request) = true)
    (disorder : kernel.isInOrder caller (.unmap request) = false) :
    (kernel.unmapPage request).1 = .error .invalid := by
  -- The environment is there, so that the address is what is judged next.
  obtain ⟨slot, named⟩ := owned_of_mayChange entitled List.mem_cons_self
  have found := (findOwned_eq_ok owns).mpr named
  simp only [PageRequest.target] at found
  simp [unmapPage, resolveUnmap, found, checkPage_refused disorder, bind, Except.bind]

omit consistent in
/-- A request for a fresh page is refused for its address or for its permission. -/
theorem allocPage_of_disorder {request : AllocRequest}
    (entitled : kernel.mayChange caller (.alloc request) = true)
    (disorder : kernel.isInOrder caller (.alloc request) = false) :
    (kernel.allocPage request).1 = .error .invalid := by
  -- The environment is there, so that the rest of the request is what is judged next.
  obtain ⟨slot, named⟩ := owned_of_mayChange entitled List.mem_cons_self
  have found := (findOwned_eq_ok owns).mpr named
  simp only [PageRequest.target] at found
  rcases request.check_cases with refused | ⟨page, -, order⟩
  · simp [allocPage, resolveAlloc, found, refused, bind, Except.bind]
  · exact absurd (disorder.symm.trans order) Bool.false_ne_true

/-- A request to pass a page on is refused for an address, its permission, or the page itself. -/
theorem mapPage_of_disorder {request : MapRequest}
    (entitled : kernel.mayChange caller (.map request) = true)
    (disorder : kernel.isInOrder caller (.map request) = false) :
    (kernel.mapPage request).1 = .error .invalid := by
  obtain ⟨source, sourceNamed⟩ := owned_of_mayChange entitled List.mem_cons_self
  obtain ⟨target, named⟩ := owned_of_mayChange entitled (List.mem_cons_of_mem _ List.mem_cons_self)
  have sourceFound := (findOwned_eq_ok owns).mpr sourceNamed
  have found := (findOwned_eq_ok owns).mpr named
  rcases request.check_cases with
    refused | ⟨page, _, checked, placed, sourceInside, inside, allowed⟩
  · simp [mapPage, resolveMap, sourceFound, found, refused, bind, Except.bind]
  · obtain ⟨sourceSpace, -, sourceHeld, -⟩ := consistent.reaches_of_owned owns sourceNamed
    obtain ⟨space, -, held, -⟩ := consistent.reaches_of_owned owns named
    -- What is left to be out of order is the page that is to be passed on.
    have may : kernel.mayPass source page.address request.flags = false := by
      rw [placed]
      simpa [isInOrder, sourceInside, inside, sourceNamed] using disorder
    simp [mapPage, resolveMap, sourceFound, found, checked, spaceOf, sourceHeld, held,
      shareable_of_not_mayPass sourceHeld allowed may, bind, Except.bind]

/-- An argument that is out of order is called invalid. -/
theorem changePage_of_disorder (entitled : kernel.mayChange caller request = true)
    (disorder : kernel.isInOrder caller request = false) :
    (kernel.changePage request).1 = .error .invalid := by
  -- One case for each of the three calls.
  cases request with
  | alloc request => exact allocPage_of_disorder owns entitled disorder
  | map request => exact consistent.mapPage_of_disorder owns entitled disorder
  | unmap request => exact unmapPage_of_disorder owns entitled disorder

omit consistent owns in
/-- The page table that a request may need is looked for in the space of its target. -/
theorem tablesNeeded_eq {id : EnvId} (named : kernel.owned? caller id = some slot)
    (held : (kernel.envAt slot).space = some space) (va : Address) :
    (if ((kernel.owned? caller id).bind fun slot => kernel.tableIn slot va).isSome then 0 else 1) =
      kernel.memory.tablesNeeded space va := by
  -- The caller's rights and the space are known, and what is left is the look-up.
  simp only [named, Option.bind_some, tableIn, held, Memory.tablesNeeded]

/-- A request to unmap a page that is in order succeeds. -/
theorem unmapPage_of_order {request : UnmapRequest}
    (entitled : kernel.mayChange caller (.unmap request) = true)
    (order : kernel.isInOrder caller (.unmap request) = true) :
    (kernel.unmapPage request).1 = .ok () := by
  -- Every request of this kind is made by some words in the registers.
  obtain ⟨words, rfl⟩ : ∃ words, request = UnmapRequest.ofArguments words :=
    ⟨{ first := request.target.raw, second := request.va }, rfl⟩
  obtain ⟨slot, named⟩ := owned_of_mayChange entitled List.mem_cons_self
  obtain ⟨space, reaches, -, known⟩ := consistent.reaches_of_owned owns named
  obtain ⟨aligned, below⟩ := isUserPage_iff.mp order
  obtain ⟨table, tabled⟩ := Option.isSome_iff_exists.mp known
  rw [unmapPage_of_reaches reaches aligned below, Memory.unmap_spec tabled]
  rfl

/-- A request for a fresh page that is in order takes a frame, and perhaps one for its table. -/
theorem allocPage_of_order {request : AllocRequest}
    (entitled : kernel.mayChange caller (.alloc request) = true)
    (order : kernel.isInOrder caller (.alloc request) = true) :
    (kernel.allocPage request).1 =
      if kernel.memory.pool.canSupply (kernel.framesNeeded caller (.alloc request)) then .ok ()
      else .error .outOfMemory := by
  -- Every request of this kind is made by some words in the registers.
  obtain ⟨words, rfl⟩ : ∃ words, request = AllocRequest.ofArguments words :=
    ⟨{ first := request.target.raw, second := request.va, third := request.flags.bits }, rfl⟩
  obtain ⟨slot, named⟩ := owned_of_mayChange entitled List.mem_cons_self
  obtain ⟨space, reaches, held, known⟩ := consistent.reaches_of_owned owns named
  obtain ⟨inside, allowed⟩ := (Bool.and_eq_true _ _ ▸ order :)
  obtain ⟨aligned, below⟩ := isUserPage_iff.mp inside
  have needed : kernel.framesNeeded caller (.alloc (.ofArguments words)) =
      kernel.memory.tablesNeeded space words.second + 1 :=
    congrArg (· + 1) (tablesNeeded_eq named held words.second)
  rw [allocPage_of_reaches reaches aligned below allowed, needed]
  exact Memory.mapFresh_fst known aligned below _

/-- A request to pass a page on that is in order takes a frame for its table, if any. -/
theorem mapPage_of_order {request : MapRequest}
    (entitled : kernel.mayChange caller (.map request) = true)
    (order : kernel.isInOrder caller (.map request) = true) :
    (kernel.mapPage request).1 =
      if kernel.memory.pool.canSupply (kernel.framesNeeded caller (.map request)) then .ok ()
      else .error .outOfMemory := by
  obtain ⟨words, rfl⟩ : ∃ words, request = MapRequest.ofArguments words :=
    ⟨⟨request.source.raw, request.sourceVa, request.target.raw, request.targetVa,
      request.flags.bits⟩, rfl⟩
  obtain ⟨source, sourceNamed⟩ := owned_of_mayChange entitled List.mem_cons_self
  obtain ⟨slot, named⟩ := owned_of_mayChange entitled (List.mem_cons_of_mem _ List.mem_cons_self)
  obtain ⟨sourceSpace, sourceReaches, sourceHeld, -⟩ :=
    consistent.reaches_of_owned owns sourceNamed
  obtain ⟨space, reaches, held, known⟩ := consistent.reaches_of_owned owns named
  simp only [isInOrder, mayPass, Bool.and_eq_true, isUserPage_iff, sourceNamed, Option.any_some,
    Option.any_eq_true, entryIn, sourceHeld, Option.bind_some] at order
  obtain ⟨⟨⟨sourceAligned, sourceBelow⟩, aligned, below⟩, ⟨-, allowed⟩, entry, mapped, covered⟩ :=
    order
  -- The page is passed on as writable only if it is writable at its source.
  have passes (writes : (⟨words.fifth⟩ : PageFlags).contains .writable = true) :
      entry.flags.contains .writable = true := by
    change (!(⟨words.fifth⟩ : PageFlags).contains .writable || _) = true at covered
    rwa [writes, Bool.not_true, Bool.false_or] at covered
  have needed : kernel.framesNeeded caller (.map (.ofArguments words)) =
      kernel.memory.tablesNeeded space words.fourth :=
    tablesNeeded_eq named held words.fourth
  have aligned : isAligned words.fourth = true := aligned
  rw [mapPage_of_reaches sourceReaches reaches sourceAligned sourceBelow aligned below allowed
    mapped passes, needed, Memory.map_fst_of_userPage known aligned below]
  cases kernel.memory.pool.canSupply (kernel.memory.tablesNeeded space words.fourth) <;> rfl

/-- A request that is in order succeeds if there are frames for it. -/
theorem changePage_of_order (entitled : kernel.mayChange caller request = true)
    (order : kernel.isInOrder caller request = true) : (kernel.changePage request).1 =
      if kernel.memory.pool.canSupply (kernel.framesNeeded caller request) then .ok ()
      else .error .outOfMemory := by
  -- All checks are passed, and what is left is an operation on the memory.
  cases request with
  | alloc request => exact consistent.allocPage_of_order owns entitled order
  | map request => exact consistent.mapPage_of_order owns entitled order
  | unmap request => exact consistent.unmapPage_of_order owns entitled order

/-- A request for a page is answered as it is decided. -/
theorem changePage_fst (request : PageRequest) :
    (kernel.changePage request).1 = kernel.pageAnswer caller request := by
  -- The conditions are looked at in the order in which the answer lists them.
  unfold pageAnswer
  cases entitled : kernel.mayChange caller request with
  | false => exact changePage_of_stranger owns entitled
  | true =>
    cases order : kernel.isInOrder caller request with
    | false => exact consistent.changePage_of_disorder owns entitled order
    | true =>
      rw [consistent.changePage_of_order owns entitled order]
      cases kernel.memory.pool.canSupply (kernel.framesNeeded caller request) <;> rfl

end Consistent

end Kernel

end Exokernel
