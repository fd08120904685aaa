import Exokernel.Proofs.Kernel.Mail
import Exokernel.Proofs.Profiles

/-! Which answer a send gets, as the two environments and the memory decide it. -/

namespace Exokernel

/-- A permission that user code may ask for has some flags. -/
theorem PageFlags.isEmpty_eq_false {flags : PageFlags} (allowed : flags.isUserPermission = true) :
    flags.isEmpty = false := by
  -- The empty set lacks the required flags.
  by_contra empty
  have bits : flags.bits = 0 := by simpa [isEmpty] using empty
  rw [show flags = .empty from eq_of_bits_eq bits] at allowed
  exact absurd allowed (by decide)

namespace Kernel

variable {kernel : Kernel} {sender receiver : Slot} {request : SendRequest}

/-- The slot of the environment that an id names to a sender; the sender may name itself. -/
def addressee? (kernel : Kernel) (sender : Slot) (target : EnvId) : Option Slot :=
  if target.isSelf then some sender else (kernel.env? target).map fun _ => target.slot

/-- Entry of a page in the address space of the environment in a slot. -/
def entryIn (kernel : Kernel) (slot : Slot) (va : Address) : Option PageEntry :=
  (kernel.envAt slot).space.bind fun space => kernel.memory.entryAt? space va

/-- The page table for a page in the address space of the environment in a slot. -/
def tableIn (kernel : Kernel) (slot : Slot) (va : Address) : Option FrameNumber :=
  (kernel.envAt slot).space.bind fun space => kernel.memory.tableFrame? space (tableIndex va)

/-- The environment in a slot has a page at an address that it may pass on with a permission. -/
def mayPass (kernel : Kernel) (slot : Slot) (va : Address) (flags : PageFlags) : Bool :=
  -- A permission to write can only be passed on by those who have it.
  isAligned va && flags.isUserPermission &&
    (kernel.entryIn slot va).any fun entry =>
      !flags.contains .writable || entry.flags.contains .writable

/-- Where the page of a request goes, if it has one and the receiver takes pages. -/
def landing? (kernel : Kernel) (receiver : Slot) (request : SendRequest) : Option Address :=
  if request.sourceVa < userTop then (kernel.envAt receiver).mailbox.landing else none

/-- The answer to a send; of several reasons to refuse it the first one counts. -/
def sendAnswer (kernel : Kernel) (sender : Slot) (request : SendRequest) : Except SysError Word :=
  match kernel.addressee? sender request.target with
  | none => .error .badEnv
  | some receiver =>
    if !(kernel.envAt receiver).awaitsMessage then .error .notReceiving
    -- A message without a page, or for a receiver that takes none, cannot fail any more.
    else match kernel.landing? receiver request with
      | none => .ok 0
      | some landing =>
        if !kernel.mayPass sender request.sourceVa request.flags then .error .invalid
        else if (kernel.tableIn receiver landing).isNone && kernel.memory.pool.isExhausted then
          .error .outOfMemory
        else .ok 1

/-- The environment that a sender names is the one that is found. -/
theorem find_eq (kernel : Kernel) (sender : Slot) (target : EnvId) :
    kernel.envs.find target (some sender) =
      match kernel.addressee? sender target with
      | some slot => .ok slot
      | none => .error .badEnv := by
  -- To exist is to be live under the id that is asked for.
  have exists_ : ((kernel.envAt target.slot).isLive && (kernel.envAt target.slot).id == target) =
      (kernel.env? target).isSome := by
    rw [env?]
    split <;> simp_all
  simp only [EnvTable.find, addressee?]
  rw [← envAt, exists_]
  split
  · rfl
  · cases kernel.env? target <;> rfl

/-- Without a page, or a place for it, nothing but the value is sent. -/
theorem resolvePage_of_none (alone : kernel.landing? receiver request = none) :
    kernel.resolvePage sender receiver request = .ok none := by
  simp only [landing?] at alone
  simp only [resolvePage]
  -- No page is offered where the sender names an address that is too high.
  split
  · rename_i low
    rw [if_pos low] at alone
    rw [alone]
    rfl
  · rfl

section Page

variable {landing : Address} (lands : kernel.landing? receiver request = some landing)
include lands

/-- A page lands if the sender offers one and the receiver takes one. -/
theorem landing?_eq_some : request.sourceVa < userTop ∧
    (kernel.envAt receiver).mailbox.landing = some landing := by
  -- Above the user's top is the mark of a message without a page.
  simp only [landing?] at lands
  split at lands
  · rename_i low
    exact ⟨low, lands⟩
  · simp at lands

/-- A page that may be passed on is planned to be mapped where the receiver takes pages. -/
theorem resolvePage_of_mayPass {space : SpaceHandle}
    (takes : (kernel.envAt receiver).space = some space)
    (may : kernel.mayPass sender request.sourceVa request.flags = true) :
    ∃ entry, kernel.entryIn sender request.sourceVa = some entry ∧
      request.flags.isUserPermission = true ∧
      kernel.resolvePage sender receiver request = .ok (some
        { space, va := landing, frame := entry.frame, flags := request.flags }) := by
  obtain ⟨low, wanted⟩ := landing?_eq_some lands
  simp only [mayPass, Bool.and_eq_true, Option.any_eq_true] at may
  obtain ⟨⟨aligned, allowed⟩, entry, found, covered⟩ := may
  obtain ⟨source, held, mapped⟩ := Option.bind_eq_some_iff.mp found
  -- What is covered is no escalation.
  have passes : (request.flags.contains .writable && !entry.flags.contains .writable) = false := by
    rw [← Bool.not_eq_true', Bool.not_and, Bool.not_not]
    exact covered
  refine ⟨entry, found, allowed, ?_⟩
  simp [resolvePage, low, wanted, checkPage, UserPage.ofAddress?, aligned, checkPermission,
    allowed, spaceOf, held, takes, shareable, mapped, checkNoEscalation, passes, bind, Except.bind,
    pure, Except.pure]

/-- A page that may not be passed on is refused. -/
theorem resolvePage_of_not_mayPass {source space : SpaceHandle}
    (gives : (kernel.envAt sender).space = some source)
    (takes : (kernel.envAt receiver).space = some space)
    (may : kernel.mayPass sender request.sourceVa request.flags = false) :
    kernel.resolvePage sender receiver request = .error .invalid := by
  obtain ⟨low, wanted⟩ := landing?_eq_some lands
  -- Each test that may fail is one reason to refuse the page.
  by_cases aligned : isAligned request.sourceVa = true
  · by_cases allowed : request.flags.isUserPermission = true
    · have checked : checkPage request.sourceVa = .ok ⟨request.sourceVa, aligned, low⟩ := by
        simp [checkPage, UserPage.ofAddress?, low, aligned]
      simp only [mayPass, aligned, allowed, entryIn, gives, Option.bind_some, Bool.true_and] at may
      cases mapped : kernel.memory.entryAt? source request.sourceVa with
      | none =>
        simp [resolvePage, low, wanted, checked, checkPermission, allowed, spaceOf, gives, takes,
          shareable, mapped, bind, Except.bind, throw, throwThe, MonadExceptOf.throw]
      | some entry =>
        have exceeds : (request.flags.contains .writable && !entry.flags.contains .writable) =
            true := by
          simpa [mapped] using may
        simp [resolvePage, low, wanted, checked, checkPermission, allowed, spaceOf, gives, takes,
          shareable, mapped, checkNoEscalation, exceeds, bind, Except.bind]
    · simp [resolvePage, low, wanted, checkPage, UserPage.ofAddress?, aligned, checkPermission,
        allowed, bind, Except.bind]
  · simp [resolvePage, low, wanted, checkPage, UserPage.ofAddress?, aligned, bind, Except.bind]

end Page

/-- A request to an environment that waits comes to what its page comes to. -/
theorem resolveSend_of_waits (owns : kernel.current = some sender)
    (found : kernel.envs.find request.target (some sender) = .ok receiver)
    (waits : (kernel.envAt receiver).awaitsMessage = true) :
    kernel.resolveSend request = (kernel.resolvePage sender receiver request).map fun page =>
      { receiver, sender := (kernel.envAt sender).id, value := request.value, page } := by
  -- Whatever the page comes to, target and value are accepted.
  simp only [resolveSend, Kernel.owner, owns, bind, Except.bind, found, waits]
  cases kernel.resolvePage sender receiver request <;> rfl

/-- A request that is accepted fails only if its page cannot be placed. -/
theorem trySend_of_resolved {delivery : Delivery}
    (resolved : kernel.resolveSend request = .ok delivery) : (kernel.trySend request).1 =
      (delivery.placePage kernel.memory).1.map fun () =>
        if delivery.permission.isEmpty then 0 else 1 := by
  -- What has been resolved is carried out, and only placing a page takes a frame.
  simp only [trySend, resolved]
  cases delivery.placePage kernel.memory with
  | mk result memory => cases result <;> rfl

/-- A send is answered as the two environments and the memory decide. -/
theorem Consistent.trySend_fst (consistent : kernel.Consistent)
    (owns : kernel.current = some sender) (request : SendRequest) :
    (kernel.trySend request).1 = kernel.sendAnswer sender request := by
  -- The conditions are looked at in the order in which the answer lists them.
  have found := kernel.find_eq sender request.target
  obtain ⟨source, gives, -⟩ := consistent.owns sender (consistent.running sender owns).1
  rw [sendAnswer]
  cases named : kernel.addressee? sender request.target with
  | none =>
    rw [named] at found
    simp [trySend, resolveSend, Kernel.owner, owns, bind, Except.bind, found]
  | some receiver =>
    rw [named] at found
    dsimp only
    split
    · rename_i deaf
      rw [trySend, resolveSend_refused owns found (by simpa using deaf)]
    · rename_i waits
      have waits : (kernel.envAt receiver).awaitsMessage = true := by simpa using waits
      have accepted := resolveSend_of_waits owns found waits
      split
      · -- Only the value goes.
        rename_i lands
        rw [resolvePage_of_none lands] at accepted
        rw [trySend_of_resolved accepted]
        rfl
      · rename_i landing lands
        -- The receiver has a space, and a place in it that is a user page.
        obtain ⟨-, wanted⟩ := landing?_eq_some lands
        obtain ⟨aligned, below⟩ := consistent.landing receiver landing wanted
        obtain ⟨space, takes, exists_⟩ :=
          consistent.owns receiver (Env.isLive_of_awaitsMessage waits)
        obtain ⟨table, tabled⟩ := Option.isSome_iff_exists.mp exists_
        split
        · rename_i may
          rw [resolvePage_of_not_mayPass lands gives takes (by simpa using may)] at accepted
          rw [trySend, accepted]
          rfl
        · rename_i may
          obtain ⟨entry, -, allowed, resolved⟩ :=
            resolvePage_of_mayPass lands takes (by simpa using may)
          rw [resolved] at accepted
          -- Nothing but the frame of a page table can be missing now.
          have placed := PlannedMapping.replace_fst ⟨space, landing, entry.frame, request.flags⟩
            consistent.memory tabled aligned below
          have missing : kernel.tableIn receiver landing =
              table.tables.find? (tableIndex landing) := by
            simp [tableIn, takes, Memory.tableFrame?, tabled]
          rw [trySend_of_resolved accepted, Delivery.placePage, Delivery.permission, missing,
            placed]
          simp only [PageFlags.isEmpty_eq_false allowed, Bool.false_eq_true, if_false]
          split <;> rfl

/-- A send that is refused because nobody waits leaves the kernel as it is. -/
theorem trySend_of_notReceiving (owns : kernel.current = some sender)
    (refused : kernel.sendAnswer sender request = .error .notReceiving) :
    kernel.trySend request = (.error .notReceiving, kernel) := by
  have found := kernel.find_eq sender request.target
  unfold sendAnswer at refused
  split at refused
  · simp at refused
  · rename_i receiver named
    rw [named] at found
    split at refused
    · rename_i idle
      rw [trySend, resolveSend_refused owns found (by simpa using idle)]
    · -- Whoever waits is not the reason to refuse a send.
      split at refused
      · simp at refused
      · split at refused
        · simp at refused
        · split at refused <;> simp at refused

section Profile

variable {next : Kernel} (same : next.profile = kernel.profile)
include same

/-- Who can be sent to is seen from the profile. -/
theorem addressee?_of_profile : next.addressee? sender = kernel.addressee? sender := by
  -- A slot is taken or not, and nothing else is asked.
  funext target
  have found := isSome_of_profile same target
  simp only [addressee?]
  cases before : kernel.env? target <;> cases after : next.env? target <;> simp_all

/-- Where a page lands is seen from the profile. -/
theorem landing?_of_profile : next.landing? receiver = kernel.landing? receiver := by
  -- The mailbox is part of it.
  funext request
  simp only [landing?, mailbox_of_profile same]

/-- Registers and counts of runs have no part in the answer. -/
theorem sendAnswer_of_profile (memory : next.memory = kernel.memory) :
    next.sendAnswer sender request = kernel.sendAnswer sender request := by
  -- All that the answer reads is in the profile or in memory.
  simp only [sendAnswer, addressee?_of_profile same, landing?_of_profile same, mayPass, entryIn,
    tableIn, memory, space_of_profile same, Env.awaitsMessage, mailbox_of_profile same,
    status_of_profile same]
  rfl

end Profile

/-- What a send returns is decided by the two environments and the memory. -/
theorem Settled.sendResult_eq {event : KernelEvent} {frame : TrapFrame} {words : Arguments}
    (settled : kernel.Settled) (asks : kernel.Asks event sender frame .trySend words) :
    kernel.sendResult sender frame words = kernel.sendAnswer sender (.ofArguments words) := by
  -- The caller's registers are saved first, and that is no part of the answer.
  obtain ⟨consistent, stillOwns, -⟩ := settled.saved asks.user asks.owns
  rw [sendResult, consistent.trySend_fst stillOwns, sendAnswer_of_profile (profile_saved ..) rfl]

end Kernel

end Exokernel
