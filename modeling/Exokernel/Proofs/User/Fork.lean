import Exokernel.Proofs.Memory.Sharing
import Exokernel.Proofs.User.Service

/-! A fork makes a child that shares its parent's pages, and neither can write to them in place. -/

namespace Exokernel

namespace Program

open Memory (Retains Shares Installs installs_map installs_mapFresh)

variable {η : Type} {handlers : Handlers η} {attempts : Nat} {origin : Memory}
  {start now next : UserState η Machine} {slot : Slot} {space child : SpaceHandle}
  {stack : Address} {id : EnvId}

/-- The space that an id names stays the same while no outline changes. -/
theorem Continues.addressed (continues : Continues start now slot space) (id : EnvId) :
    now.cpu.addressed space id = start.cpu.addressed space id := by
  -- An id is looked up in outlines.
  rw [Machine.addressed, Machine.addressed, continues.outline_eq]

/-- A page that is mapped from the own space has the frame that is mapped there. -/
theorem installs_mapPage {target : EnvId} {sourceVa targetVa : Address} {flags : PageFlags}
    (runs : now.cpu.Runs slot space)
    (ends : Ends (reply handlers attempts) (mapPage .self sourceVa target targetVa flags) now
      (.ok ()) next) : ∃ handle frame held, now.cpu.addressed space target = some handle ∧
      now.cpu.kernel.memory.entryAt? space sourceVa = some { frame, flags := held } ∧
      flags.isUserPermission = true ∧
      Installs now.cpu.kernel.memory next.cpu.kernel.memory handle targetVa
        (some { frame, flags }) ∧ Continues now next slot space := by
  obtain ⟨source, handle, frame, held, own, named, offered, allowed, mapped, goes⟩ :=
    ends_mapPage runs ends
  obtain rfl : space = source := Option.some.inj own
  -- Being present is part of any permission that user code may ask for.
  have installs := installs_map mapped
  rw [PageFlags.or_present allowed] at installs
  exact ⟨handle, frame, held, named, offered, allowed, installs, goes⟩

/-- A page that is allocated has a frame that nothing was mapped to. -/
theorem installs_allocPage {env : EnvId} {va : Address} {flags : PageFlags}
    (runs : now.cpu.Runs slot space)
    (ends : Ends (reply handlers attempts) (allocPage env va flags) now (.ok ()) next) :
    ∃ handle, ∃ frame ∈ now.cpu.kernel.memory.pool.free,
      now.cpu.addressed space env = some handle ∧ flags.isUserPermission = true ∧
      Installs now.cpu.kernel.memory next.cpu.kernel.memory handle va (some { frame, flags }) ∧
      Continues now next slot space := by
  -- It is placed with the flags that were asked for, which include presence.
  obtain ⟨handle, named, allowed, made, goes⟩ := ends_allocPage runs ends
  obtain ⟨frame, free, installs⟩ := installs_mapFresh made
  rw [PageFlags.or_present allowed] at installs
  exact ⟨handle, frame, free, named, allowed, installs, goes⟩

/-- A parent shares pages with a child, and has kept what it held at first. -/
structure Sharing (origin : Memory) (start now : UserState η Machine) (slot : Slot)
    (space child : SpaceHandle) (stack : Address) : Prop extends
    Continues start now slot space where
  /-- The parent's space. -/
  retains : Retains origin now.cpu.kernel.memory space stack
  /-- What the child has of it. -/
  shares : Shares now.cpu.kernel.memory space child

/-- Asking for the own id leaves everything as it is. -/
theorem ends_ownInfo {info : EnvInfo} (runs : now.cpu.Runs slot space)
    (ends : Ends (reply handlers attempts) ownInfo now (.ok info) next) :
    now.cpu.Resumes next.cpu slot space now.cpu.kernel.memory ∧ next.library = now.library := by
  -- The view of the environment table is read after the call, and changes nothing.
  obtain ⟨env, asked, asking, looking⟩ := ends_bind.mp ends
  obtain ⟨word, answered, calling, named⟩ := ends_bind.mp asking
  obtain ⟨replied, -⟩ := ends_call.mp calling
  obtain ⟨-, rfl⟩ := ends_pure.mp named
  obtain ⟨-, rfl⟩ := ends_asked rfl looking
  simp only [reply, Request.reply, Option.some.injEq, Prod.mk.injEq] at replied
  obtain ⟨result, state⟩ := replied
  rw [← state]
  exact ⟨runs.currentEnv_ok (Prod.ext result rfl), rfl⟩

namespace Sharing

/-- A page that somebody could write to is shared by a change on both sides, the child first. -/
theorem exchangePage (sharing : Sharing origin start now slot space child stack)
    (named : start.cpu.addressed space id = some child) (apart : child ≠ space) {page : Word}
    {shared : PageFlags} (readOnly : shared.contains .writable = false)
    (ends : Ends (reply handlers attempts) (do
        mapPage .self (page * pageSize) id (page * pageSize) shared
        mapPage .self (page * pageSize) .self (page * pageSize) shared) now (.ok ()) next) :
    Sharing origin start next slot space child stack := by
  have runs := sharing.runs
  obtain ⟨⟨⟩, middle, first, second⟩ := ends_bind.mp ends
  obtain ⟨target, frame, had, targetNamed, offered, allowed, sharedOut, goes⟩ :=
    installs_mapPage runs first
  rw [sharing.addressed, named, Option.some.injEq] at targetNamed
  subst targetNamed
  have between := sharing.retains.shared runs.coupled.settled.memory sharedOut allowed readOnly
    fun _ => offered
  obtain ⟨target, again, hadStill, targetNamed, offeredStill, -, reduced, goesOn⟩ :=
    installs_mapPage goes.runs second
  obtain rfl : space = target := Option.some.inj targetNamed
  -- The parent's page was not touched in between, so that it is the same frame.
  have still := sharedOut.there space (Ne.symm apart) (page * pageSize)
  rw [offered] at still
  rw [still, Option.some.injEq, PageEntry.mk.injEq] at offeredStill
  obtain ⟨rfl, rfl⟩ := offeredStill
  refine ⟨sharing.toContinues.trans (goes.trans goesOn), ?_, ?_⟩
  · exact between.shared goes.runs.coupled.settled.memory reduced allowed readOnly fun _ => still
  · have childAt (va : Address) := sharedOut.here va
    have parentAt (va : Address) := reduced.here va
    simp only [← reduced.there child apart] at childAt
    simp only [sharedOut.there space (Ne.symm apart)] at parentAt
    exact sharing.shares.placed parentAt childAt readOnly readOnly

/-- A page that nobody writes to is shared with the permission that it has. -/
theorem givePage (sharing : Sharing origin start now slot space child stack)
    (named : start.cpu.addressed space id = some child) (apart : child ≠ space) {page : Word}
    {flags : PageFlags} (readOnly : flags.contains .writable = false)
    (held : flags = .empty ∨ ∃ entry,
      now.cpu.kernel.memory.entryAt? space (page * pageSize) = some entry ∧ flags = entry.flags)
    (ends : Ends (reply handlers attempts)
      (mapPage .self (page * pageSize) id (page * pageSize) flags) now (.ok ()) next) :
    Sharing origin start next slot space child stack := by
  have runs := sharing.runs
  obtain ⟨target, frame, had, targetNamed, offered, allowed, sharedOut, goes⟩ :=
    installs_mapPage runs ends
  rw [sharing.addressed, named, Option.some.injEq] at targetNamed
  subst targetNamed
  -- A page can only be given away where there is one, so that its permission is what was looked up.
  obtain rfl : flags = had := by
    rcases held with rfl | ⟨entry, found, rfl⟩
    · exact absurd allowed (by decide)
    · rw [offered, Option.some.injEq] at found
      exact (congrArg PageEntry.flags found).symm
  -- For the parent nothing changes: it maps the same frame in the same way.
  have parentAt (va : Address) : next.cpu.kernel.memory.entryAt? space va =
      if pageNumber va = pageNumber (page * pageSize) then some { frame, flags }
      else now.cpu.kernel.memory.entryAt? space va := by
    rw [sharedOut.there space (Ne.symm apart)]
    split
    · rename_i here
      rw [Memory.entryAt?_congr here, offered]
    · rfl
  exact ⟨sharing.toContinues.trans goes,
    sharing.retains.shared runs.coupled.settled.memory sharedOut allowed readOnly fun _ => offered,
    sharing.shares.placed parentAt sharedOut.here readOnly readOnly⟩

/-- One page is shared: the child maps it, and the parent loses the permission to write. -/
theorem sharePage (sharing : Sharing origin start now slot space child stack)
    (named : start.cpu.addressed space id = some child) (apart : child ≠ space) {page : Word}
    (ends : Ends (reply handlers attempts) (sharePage id page) now (.ok ()) next) :
    Sharing origin start next slot space child stack := by
  obtain ⟨flags, looked, asked, rest⟩ := ends_bind.mp ends
  obtain ⟨rfl, held⟩ := ends_permissionAt sharing.runs sharing.retains.permitted asked
  dsimp only at rest
  -- The permission that is looked up decides which of the two ways is taken.
  split at rest
  · exact sharing.exchangePage named apart (PageFlags.not_writable_shared flags) rest
  · rename_i plain
    exact sharing.givePage named apart (PageFlags.not_writable_of_disjoint plain (by decide)) held
      rest

/-- A page that is looked at is shared if it is mapped. -/
theorem shareIfMapped (sharing : Sharing origin start now slot space child stack)
    (named : start.cpu.addressed space id = some child) (apart : child ≠ space) {page : Word}
    (ends : Ends (reply handlers attempts) (shareIfMapped id page) now (.ok ()) next) :
    Sharing origin start next slot space child stack := by
  -- A page that is not mapped for user mode is passed over.
  obtain ⟨entry, looked, asked, rest⟩ := ends_bind.mp ends
  obtain ⟨-, rfl⟩ := ends_asked rfl asked
  split at rest
  · exact sharing.sharePage named apart rest
  · obtain ⟨-, rfl⟩ := ends_pure.mp rest
    exact sharing

/-- The pages of one page table are shared. -/
theorem shareTable (sharing : Sharing origin start now slot space child stack)
    (named : start.cpu.addressed space id = some child) (apart : child ≠ space) {index : Nat}
    (ends : Ends (reply handlers attempts) (shareTable id index) now (.ok ()) next) :
    Sharing origin start next slot space child stack := by
  obtain ⟨entry, looked, asked, rest⟩ := ends_bind.mp ends
  obtain ⟨-, rfl⟩ := ends_asked rfl asked
  split at rest
  · -- Each page of the table keeps what was shared before.
    exact ends_forM (Sharing origin start · slot space child stack)
      (fun page _ before after done begun => begun.shareIfMapped named apart done) rest sharing
  · obtain ⟨-, rfl⟩ := ends_pure.mp rest
    exact sharing

/-- A child gets its own page for handlers, which is none of the shared ones. -/
theorem shareSpace (sharing : Sharing origin start now slot space child stack)
    (named : start.cpu.addressed space id = some child) (apart : child ≠ space)
    (ends : Ends (reply handlers attempts) (shareSpace id) now (.ok ()) next) :
    Sharing origin start next slot space child stack := by
  -- The tables come first, and then the page for handlers, which lies above the stack top.
  obtain ⟨⟨⟩, shared, tables, allocating⟩ := ends_bind.mp ends
  have done : Sharing origin start shared slot space child stack :=
    ends_forM (Sharing origin start · slot space child stack)
      (fun index _ before after done begun => begun.shareTable named apart done) tables sharing
  obtain ⟨handle, frame, free, addressed, allowed, installs, goes⟩ :=
    installs_allocPage done.runs allocating
  rw [done.addressed, named, Option.some.injEq] at addressed
  subst addressed
  exact ⟨done.toContinues.trans goes,
    done.retains.fresh done.runs.coupled.settled.memory installs free allowed (by decide),
    done.shares.fresh apart installs (by decide)⟩

/-- A call that leaves memory alone leaves what is shared. -/
theorem resumes (sharing : Sharing origin start now slot space child stack)
    (resumes : now.cpu.Resumes next.cpu slot space now.cpu.kernel.memory)
    (library : next.library = now.library) :
    Sharing origin start next slot space child stack where
  toContinues := sharing.toContinues.trans ⟨resumes.runs, resumes.outline_eq, library⟩
  retains := resumes.memory_eq ▸ sharing.retains
  shares := resumes.memory_eq ▸ sharing.shares

/-- A child that is complete has its parent's pages, and a page for handlers. -/
theorem prepareChild (sharing : Sharing origin start now slot space child stack)
    (named : start.cpu.addressed space id = some child) (apart : child ≠ space)
    (ends : Ends (reply handlers attempts) (prepareChild id) now (.ok ()) next) :
    Sharing origin start next slot space child stack := by
  -- Once the pages are shared, the other calls leave memory alone.
  obtain ⟨⟨⟩, shared, sharing_, rest⟩ := ends_bind.mp ends
  have first := sharing.shareSpace named apart sharing_
  obtain ⟨info, informed, asking, rest⟩ := ends_bind.mp rest
  obtain ⟨⟨⟩, registered, registering, starting⟩ := ends_bind.mp rest
  obtain ⟨known, informedLibrary⟩ := ends_ownInfo first.runs asking
  have second := first.resumes known informedLibrary
  obtain ⟨word, answered, fine, registeredLibrary⟩ := ends_syscall registering
  have third := second.resumes (second.runs.setFaultEntry_ok answered fine) registeredLibrary
  obtain ⟨word, answered, fine, startedLibrary⟩ := ends_syscall starting
  exact third.resumes (third.runs.setStatus_ok rfl answered fine) startedLibrary

end Sharing

/-- Registering a handler may map a page for it, and changes no page below the stack top. -/
theorem ends_registerHandler {onWrite : η} (runs : now.cpu.Runs slot space)
    (retains : Retains origin now.cpu.kernel.memory space stack)
    (ends : Ends (reply handlers attempts) (registerHandler onWrite) now (.ok ()) next) :
    next.cpu.Runs slot space ∧ next.cpu.outline = now.cpu.outline ∧
      next.library.handler = some onWrite ∧
      Retains origin next.cpu.kernel.memory space stack := by
  have chosen {before : UserState η Machine}
      (ends :
        Ends (reply handlers attempts) (ask (.setHandler (some onWrite))) before (.ok ()) next) :
      next = { before with library := { handler := some onWrite } } :=
    (ends_asked rfl ends).2.symm
  obtain ⟨known, looked, asking, rest⟩ := ends_bind.mp ends
  obtain ⟨-, rfl⟩ := ends_asked rfl asking
  dsimp only at rest
  split at rest
  · -- The first handler needs a page to run on, which lies above the stack top.
    obtain ⟨⟨⟩, made, allocating, rest⟩ := ends_bind.mp rest
    obtain ⟨⟨⟩, entered, registering, setting⟩ := ends_bind.mp rest
    obtain ⟨handle, frame, free, addressed, allowed, installs, goes⟩ :=
      installs_allocPage runs allocating
    obtain rfl : space = handle := Option.some.inj addressed
    obtain ⟨word, answered, fine, -⟩ := ends_syscall registering
    have resumes := goes.runs.setFaultEntry_ok answered fine
    rw [chosen setting]
    refine ⟨resumes.runs, resumes.outline_eq.trans goes.outline_eq, rfl, ?_⟩
    rw [resumes.memory_eq]
    exact retains.fresh runs.coupled.settled.memory installs free allowed (by decide)
  · rw [chosen rest]
    exact ⟨runs, rfl, rfl, retains⟩

/-- What a parent and its child have after a fork. -/
structure Forked (before after : UserState η Machine) (onWrite : η) (slot : Slot)
    (space : SpaceHandle) (id : EnvId) (child : SpaceHandle) : Prop where
  /-- The parent goes on. -/
  runs : after.cpu.Runs slot space
  /-- Its handler copies pages. -/
  handled : after.library.handler = some onWrite
  /-- The child is in another slot. -/
  slot_ne : id.slot ≠ slot
  /-- The child has a space of its own. -/
  space_ne : child ≠ space
  /-- The parent keeps its id, its space and its stack pointer. -/
  parent_eq : after.cpu.outline slot = before.cpu.outline slot
  /-- The child starts on the parent's stack pointer. -/
  child_eq : after.cpu.outline id.slot = ⟨id, some child, before.cpu.context.esp⟩
  /-- The parent's space holds what it held. -/
  retains : Retains before.cpu.kernel.memory after.cpu.kernel.memory space before.cpu.context.esp
  /-- The child's space holds nothing else. -/
  shares : Shares after.cpu.kernel.memory space child

/-- The call that makes a child gives it an empty space, with which nothing is shared yet. -/
theorem ends_forkEnv (runs : now.cpu.Runs slot space)
    (retains : Retains origin now.cpu.kernel.memory space stack)
    (ends : Ends (reply handlers attempts) forkEnv now (.ok id) next) :
    ∃ child, Sharing origin next next slot space child stack ∧ next.library = now.library ∧
      id.slot ≠ slot ∧ child ≠ space ∧ ∀ other, next.cpu.outline other =
        if other = id.slot then ⟨id, some child, now.cpu.context.esp⟩
        else now.cpu.outline other := by
  obtain ⟨word, answered, calling, named⟩ := ends_bind.mp ends
  obtain ⟨result, rfl⟩ := ends_pure.mp named
  rw [Except.ok.injEq] at result
  subst result
  obtain ⟨replied, fine⟩ := ends_call.mp calling
  simp only [reply, Request.reply, Option.some.injEq, Prod.mk.injEq] at replied
  obtain ⟨first, rfl⟩ := replied
  obtain ⟨_, fresh, memory, created, goes, memory_eq, rfl, different, outlines⟩ :=
    runs.fork_ok (Prod.ext first rfl) fine
  have childSpace : ((now.cpu.syscall .fork {}).2.kernel.envAt
      (⟨word⟩ : EnvId).slot).space = some fresh := by
    rw [← Machine.outline_space, outlines, if_pos rfl]
  -- No two environments have the same space.
  have apart : fresh ≠ space := by
    rintro rfl
    exact different (goes.coupled.settled.distinct _ _ _ childSpace goes.held)
  refine ⟨fresh,
    { runs := goes
      outline_eq := rfl
      library_eq := rfl
      retains := ?_
      shares := fun va _ entry found => ?_ }, rfl, different, apart, outlines⟩
  · change Retains origin (now.cpu.syscall .fork {}).2.kernel.memory space stack
    rw [memory_eq]
    exact retains.createSpace runs.coupled.settled.memory created
  · change (now.cpu.syscall .fork {}).2.kernel.memory.entryAt? fresh va = some entry at found
    rw [memory_eq, Memory.entryAt?_createSpace created] at found
    simp at found

/-- A parent that gets the id of a child back shares its pages with it. -/
theorem ends_fork {before after : UserState η Machine} {onWrite : η}
    (runs : before.cpu.Runs slot space) (permitted : before.cpu.kernel.memory.Permitted)
    (isolated : before.cpu.kernel.memory.Private space)
    (ends : Ends (reply handlers attempts) (fork onWrite) before (.ok (.parentOf id)) after) :
    ∃ child, Forked before after onWrite slot space id child := by
  obtain ⟨⟨⟩, registered, registering, rest⟩ := ends_bind.mp ends
  have unchanged : Retains before.cpu.kernel.memory before.cpu.kernel.memory space
      before.cpu.context.esp := ⟨isolated, permitted, .refl _ _ _⟩
  obtain ⟨again, outline, handled, retains⟩ := ends_registerHandler runs unchanged registering
  obtain ⟨found, forked, forking, rest⟩ := ends_bind.mp rest
  obtain ⟨child, begun, library, different, apart, outlines⟩ :=
    ends_forkEnv again retains forking
  split at rest
  · simp [ends_pure] at rest
  rename_i other
  obtain ⟨⟨⟩, prepared, attempted, returned⟩ := ends_bind.mp rest
  obtain ⟨same, rfl⟩ := ends_pure.mp returned
  simp only [Except.ok.injEq, ForkSide.parentOf.injEq] at same
  subst same
  -- A child that cannot be completed is destroyed, and then there is no parent of it.
  have preparing := (ends_tryCatch fun failure middle ends => by
    obtain ⟨_, _, _, thrown⟩ := ends_bind.mp ends
    simp [ends_throw] at thrown).mp attempted
  -- Registering the handler has not moved the stack pointer.
  have stack : registered.cpu.context.esp = before.cpu.context.esp := by
    have same := congrArg Outline.stack (congrFun outline slot)
    rwa [again.outline_eq, runs.outline_eq] at same
  have named : forked.cpu.addressed space id = some child := by
    rw [Machine.addressed, if_neg other, outlines, if_pos rfl]
  have sharing := begun.prepareChild named apart preparing
  exact ⟨child,
    { runs := sharing.runs
      handled := by rw [sharing.library_eq, library, handled]
      slot_ne := different
      space_ne := apart
      parent_eq := by rw [sharing.outline_eq, outlines, if_neg (Ne.symm different), outline]
      child_eq := by rw [sharing.outline_eq, outlines, if_pos rfl, stack]
      retains := sharing.retains
      shares := sharing.shares }⟩

end Program

end Exokernel
