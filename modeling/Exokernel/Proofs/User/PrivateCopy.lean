import Exokernel.Proofs.Memory.Copying
import Exokernel.Proofs.User.Outcomes
import Exokernel.Proofs.User.Twins

/-! The handler of a copy-on-write page always ends, with a private copy or with nothing changed. -/

namespace Exokernel

namespace Program

variable {η : Type} {handlers : Handlers η} {attempts : Nat} {before after : UserState η Machine}
  {slot : Slot} {space : SpaceHandle} {page : Address} {old : PageEntry}

variable (handlers) (attempts)

/-- The bytes of a page that is mapped go to the copy page, whose frame then takes its place. -/
theorem ends_moveCopy (runs : before.cpu.Runs slot space)
    (permitted : before.cpu.kernel.memory.Permitted) (aligned : isAligned page = true)
    (mapped : before.cpu.kernel.memory.entryAt? space page = some old) {frame : FrameNumber}
    (fresh : before.cpu.kernel.memory.entryAt? space copyPage =
      some { frame, flags := .readWrite }) :
    ∃ after copied placed, Ends (reply handlers (attempts + 1)) (do
        store copyPage (← load page pageLength)
        mapPage .self copyPage .self page .readWrite
        unmapPage .self copyPage) before (.ok ()) after ∧
      Stays before after slot space ∧
      before.cpu.kernel.memory.copyOut space copyPage ((addressRange page pageLength).map
        (before.cpu.kernel.memory.byteAt space)) = (.ok (), copied) ∧
      copied.entryAt? space copyPage = some { frame, flags := .readWrite } ∧
      copied.map space page frame .readWrite = (.ok (), placed) ∧
      after.cpu.kernel.memory = (placed.unmap space copyPage).2 := by
  have copyAligned : isAligned copyPage = true := by decide
  have copyBelow : copyPage < userTop := by decide
  have below : page < userTop := runs.coupled.settled.memory.lt_userTop mapped
  -- Both pages are mapped as a whole, and the copy page for writing.
  have loading := ends_load_of_granted handlers attempts runs fun offset inside =>
    runs.granted permitted
      ((Memory.entryAt?_congr (pageNumber_add_offset aligned inside)).trans mapped) (by simp)
  have length : ((addressRange page pageLength).map
      (before.cpu.kernel.memory.byteAt space)).length = 4096 := by simp [addressRange]
  obtain ⟨written, storing, first, copied⟩ := ends_store_of_granted handlers attempts runs
    fun offset inside => runs.granted permitted
      ((Memory.entryAt?_congr (pageNumber_add_offset copyAligned (length ▸ inside))).trans fresh)
      fun _ => (by decide : PageFlags.readWrite.contains .writable = true)
  have entries := before.cpu.kernel.memory.entryAt?_copyOut space copyPage
    ((addressRange page pageLength).map (before.cpu.kernel.memory.byteAt space))
  rw [copied] at entries
  -- Hence the frame of the copy page can be mapped at the page.
  obtain ⟨moved, mapping, second, placed⟩ := ends_mapPage_of handlers (attempts + 1)
    first.runs first.runs.reaches_self copyAligned copyBelow aligned
    below (by decide : PageFlags.readWrite.isUserPermission = true) ((entries _ _).trans fresh)
    fun _ => (by decide : PageFlags.readWrite.contains .writable = true)
  have done := first.runs.coupled.settled.memory.map_mapped ((entries _ _).trans mapped) aligned
    below frame .readWrite
  rw [done] at mapping
  obtain ⟨last, unmapping, third, removed⟩ := ends_unmapPage_of handlers (attempts + 1)
    second.runs copyAligned copyBelow
  refine ⟨last, _, _, ?_, first.trans (second.trans third), copied, (entries _ _).trans fresh,
    Prod.ext done placed.symm, removed⟩
  exact ends_bind.mpr ⟨_, _, loading, ends_bind.mpr ⟨_, _, storing, ends_bind.mpr
    ⟨_, _, mapping, unmapping⟩⟩⟩

/-- Copying a page that is mapped ends, and can only fail for want of memory. -/
theorem ends_copyPage (runs : before.cpu.Runs slot space)
    (permitted : before.cpu.kernel.memory.Permitted) (aligned : isAligned page = true)
    (mapped : before.cpu.kernel.memory.entryAt? space page = some old) :
    ∃ result after, Ends (reply handlers (attempts + 1)) (do
        allocPage .self copyPage .readWrite
        store copyPage (← load page pageLength)
        mapPage .self copyPage .self page .readWrite
        unmapPage .self copyPage) before result after ∧
      Stays before after slot space ∧
      ((result = .ok () ∧ before.cpu.kernel.memory.Copies space page after.cpu.kernel.memory) ∨
        (before.cpu.kernel.memory.mapFresh space copyPage .readWrite).1 ≠ .ok () ∧
          ∃ failure, result = .error failure ∧
            before.cpu.kernel.memory.Intact after.cpu.kernel.memory) := by
  have allowed : PageFlags.readWrite.isUserPermission = true := by decide
  obtain ⟨made, allocated, first, memory⟩ := ends_allocPage_of handlers (attempts + 1) runs
    runs.reaches_self (by decide : isAligned copyPage = true)
    (by decide) allowed
  rcases taken : before.cpu.kernel.memory.mapFresh space copyPage .readWrite with ⟨result, next⟩
  rw [taken] at allocated memory
  cases result with
  | error error =>
    exact ⟨_, made, ends_bind_iff.mpr (.inr ⟨_, rfl, allocated⟩), first,
      .inr ⟨nofun, _, rfl, memory ▸ Memory.Intact.mapFresh runs.coupled.settled.memory taken⟩⟩
  | ok =>
    obtain ⟨frame, -, making⟩ := Memory.installs_mapFresh taken
    obtain rfl : made.cpu.kernel.memory = next := memory
    rw [PageFlags.or_present allowed] at making
    -- The page is still mapped, if only because it is the copy page.
    have still : ∃ entry, made.cpu.kernel.memory.entryAt? space page = some entry := by
      rw [making.here]
      split
      · exact ⟨_, rfl⟩
      · exact ⟨old, mapped⟩
    obtain ⟨entry, found⟩ := still
    obtain ⟨last, copied, placed, moving, second, written, offered, moved, removed⟩ :=
      ends_moveCopy handlers attempts first.runs
        (making.permitted permitted (by rintro _ ⟨⟩; exact allowed)) aligned found
        ((making.here copyPage).trans (if_pos rfl))
    refine ⟨.ok (), last, ends_bind.mpr ⟨_, _, allocated, moving⟩, first.trans second,
      .inl ⟨rfl, ?_⟩⟩
    rw [removed]
    exact .intro taken written offered moved

/-- The handler of a write to a page with the mark ends, and can only fail for want of memory. -/
theorem ends_copyOnWrite_marked (runs : before.cpu.Runs slot space)
    (permitted : before.cpu.kernel.memory.Permitted) {fault : FaultRecord}
    (written : fault.code &&& writeFault ≠ 0)
    (mapped : before.cpu.kernel.memory.entryAt? space (pageBase fault.address) = some old)
    (marked : old.flags.contains .copyOnWrite = true) :
    ∃ result after, Ends (reply handlers (attempts + 1)) (copyOnWrite fault) before result after ∧
      Stays before after slot space ∧
      ((result = .ok () ∧ before.cpu.kernel.memory.Copies space (pageBase fault.address)
          after.cpu.kernel.memory) ∨
        (before.cpu.kernel.memory.mapFresh space copyPage .readWrite).1 ≠ .ok () ∧
          ∃ failure, result = .error failure ∧
            before.cpu.kernel.memory.Intact after.cpu.kernel.memory) := by
  obtain ⟨result, after, copying, stays, outcome⟩ := ends_copyPage handlers attempts
    runs permitted (isAligned_pageBase fault.address) mapped
  have looked := ends_permissionAt_of handlers (attempts + 1) runs
    permitted (pageBase fault.address)
  rw [mapped] at looked
  refine ⟨result, after, ?_, stays, outcome⟩
  -- Both of its checks are passed, so that the rest is the copy.
  unfold copyOnWrite
  rw [if_neg written]
  refine ends_bind_iff.mpr (.inl ⟨_, _, looked, ?_⟩)
  rwa [Option.map_some, Option.getD_some, if_pos marked]

/-- What the handler makes of a fault: it copies a page that has the mark, or changes nothing. -/
def Handles (memory next : Memory) (space : SpaceHandle) (fault : FaultRecord) :
    Except UserError Unit → Prop
  -- A handler that fails may have used up a forced failure, and nothing else.
  | .ok () => (∃ old, memory.entryAt? space (pageBase fault.address) = some old ∧
      old.flags.contains .copyOnWrite = true) ∧
    memory.Copies space (pageBase fault.address) next
  | .error _ => memory.Intact next

/-- The handler always ends. -/
theorem ends_copyOnWrite_of (runs : before.cpu.Runs slot space)
    (permitted : before.cpu.kernel.memory.Permitted) (fault : FaultRecord) :
    ∃ result after, Ends (reply handlers (attempts + 1)) (copyOnWrite fault) before result after ∧
      Stays before after slot space ∧
      Handles before.cpu.kernel.memory after.cpu.kernel.memory space fault result := by
  have refused : Handles before.cpu.kernel.memory before.cpu.kernel.memory space fault
      (.error (.notCopyOnWrite fault.address fault.code)) := Memory.Intact.refl _
  by_cases written : fault.code &&& writeFault = 0
  · -- The handler gives up on a fault that is no write.
    refine ⟨_, before, ?_, .refl runs, refused⟩
    unfold copyOnWrite
    rw [if_pos written]
    exact ends_throw.mpr ⟨rfl, rfl⟩
  by_cases marked : (((before.cpu.kernel.memory.entryAt? space (pageBase fault.address)).map
      PageEntry.flags).getD .empty).contains .copyOnWrite = true
  · -- A page without an entry has no flags, and so has no mark.
    cases mapped : before.cpu.kernel.memory.entryAt? space (pageBase fault.address) with
    | none =>
      rw [mapped] at marked
      exact absurd marked (by decide)
    | some old =>
      rw [mapped] at marked
      obtain ⟨result, after, ends, stays, outcome⟩ :=
        ends_copyOnWrite_marked handlers attempts runs permitted written mapped marked
      refine ⟨result, after, ends, stays, ?_⟩
      rcases outcome with ⟨rfl, copies⟩ | ⟨-, failure, rfl, intact⟩
      · exact ⟨⟨old, mapped, marked⟩, copies⟩
      · exact intact
  · -- It gives up on a page without the mark, too.
    refine ⟨_, before, ?_, .refl runs, refused⟩
    unfold copyOnWrite
    rw [if_neg written]
    refine ends_bind_iff.mpr (.inl ⟨_, _, ends_permissionAt_of handlers (attempts + 1) runs
      permitted (pageBase fault.address), ?_⟩)
    rw [if_neg marked]
    exact ends_bind_iff.mpr (.inr ⟨_, rfl, ends_throw.mpr ⟨rfl, rfl⟩⟩)

end Program

namespace Kernel

/-- A page of an environment has got a private copy of a frame that it shared before. -/
structure CopiesPrivately (kernel next : Kernel) (id : EnvId) (va : Address)
    (old new : FrameNumber) : Prop where
  /-- The copy is another frame. -/
  ne : new ≠ old
  /-- The page maps the copy, and may be written. -/
  entry_eq : next.entryOf id va = some { frame := new, flags := .readWrite }
  /-- Nothing else refers to the copy. -/
  refs_new : next.memory.pool.refs new = 1
  /-- The copy has the bytes of the old frame. -/
  page_new : next.memory.pool.page new = kernel.memory.pool.page old
  /-- The old frame has one reference less. -/
  refs_old : next.memory.pool.refs old + 1 = kernel.memory.pool.refs old
  /-- It is free only if that was the last one. -/
  free_old : old ∈ next.memory.pool.free → next.memory.pool.refs old = 0
  /-- Its bytes are the same. -/
  page_old : next.memory.pool.page old = kernel.memory.pool.page old
  /-- The copy page is vacant again. -/
  vacant : next.entryOf id copyPage = none
  /-- Every other mapping of any environment is the same. -/
  others : ∀ other place, other ≠ id ∨ pageNumber place ≠ pageNumber va →
    next.entryOf other place = kernel.entryOf other place

/-- A page that is copied apart in the space of an environment is copied privately. -/
theorem Consistent.copiesPrivately {kernel next : Kernel} {id : EnvId} {space : SpaceHandle}
    {va : Address} {old new : FrameNumber} (consistent : kernel.Consistent)
    (after : next.Consistent) (same : next.profile = kernel.profile)
    (named : kernel.space? id = some space) (vacant : kernel.entryOf id copyPage = none)
    (used : kernel.entryOf id va ≠ none)
    (apart : kernel.memory.CopiedApart next.memory space (pageBase va) old new) :
    kernel.CopiesPrivately next id va old new := by
  obtain ⟨here, others⟩ := consistent.entryOf_of_installs same named apart.installs
  rw [pageNumber_pageBase] at here others
  have exchanges := apart.exchanges
  have sound := consistent.memory
  -- The copy page was vacant, so that it is another page.
  have elsewhere : pageNumber copyPage ≠ pageNumber va := fun page =>
    used ((entryOf_congr page).symm.trans vacant)
  exact
    { ne := exchanges.ne sound
      entry_eq := here va rfl
      refs_new := exchanges.refs_new sound after.memory
      page_new := apart.page_eq
      refs_old := exchanges.refs_old sound after.memory
      free_old := fun free => by
        by_contra referenced
        exact after.memory.not_mem_free (Nat.pos_of_ne_zero referenced) free
      page_old := apart.installs.pages old fun free =>
        (sound.not_mem_leaves_of_free free).1 exchanges.used
      vacant := (others id copyPage (.inr elsewhere)).trans vacant
      others := others }

end Kernel

namespace Machine

variable {η : Type}

/--
The handler of a copy-on-write page always ends. Either the page has a private copy of what it
shared, or the handler fails, and the page and the shared frame are as they were.
-/
theorem copiesPrivately_after (config : Config) (past : List MachineEvent) (me : EnvId)
    (library : LibraryState η) (handlers : Handlers η) (attempts : Nat) (fault : FaultRecord)
    (old : PageEntry) (running : (after config past).current = some me)
    (mapped : (after config past).kernel.entryOf me fault.address = some old)
    (vacant : (after config past).kernel.entryOf me copyPage = none) :
    ∃ result last, Program.execute handlers (attempts + 1) (Program.copyOnWrite fault)
        ⟨library, after config past⟩ = some (result, last) ∧
      match result with
      | .ok () => ∃ new, (after config past).kernel.CopiesPrivately last.cpu.kernel me
          fault.address old.frame new
      | .error _ => last.cpu.kernel.entryOf me fault.address = some old ∧
          last.cpu.kernel.memory.pool.page old.frame =
            (after config past).kernel.memory.pool.page old.frame := by
  have permitted := permitted_after config past
  have coupled := coupled_after config past
  generalize after config past = machine at *
  obtain ⟨slot, space, runs, rfl⟩ := coupled.runs_of_running running
  have begun : (⟨library, machine⟩ : UserState η Machine).cpu.Runs slot space := runs
  obtain ⟨result, last, ends, stays, outcome⟩ :=
    Program.ends_copyOnWrite_of handlers attempts begun permitted fault
  have named := runs.space?_eq
  have found : machine.kernel.memory.entryAt? space (pageBase fault.address) = some old := by
    rw [Kernel.entryOf, named, Option.bind_some] at mapped
    exact (Memory.entryAt?_congr (pageNumber_pageBase _)).trans mapped
  have unused : machine.kernel.memory.entryAt? space copyPage = none := by
    rwa [Kernel.entryOf, named, Option.bind_some] at vacant
  have sound := runs.coupled.settled.memory
  refine ⟨result, last, ends, ?_⟩
  cases result with
  | ok =>
    obtain ⟨-, copies⟩ := outcome
    obtain ⟨new, apart⟩ := copies.copiedApart sound (isAligned_pageBase _) unused found
    exact ⟨new, runs.coupled.settled.toConsistent.copiesPrivately
      stays.runs.coupled.settled.toConsistent stays.profile_eq named vacant (by simp [mapped])
      apart⟩
  | error failure =>
    -- A handler that fails has changed no mapping, and no frame that is in use.
    refine ⟨?_, ?_⟩
    · rw [← mapped]
      simp only [Kernel.entryOf, Kernel.space?_of_profile stays.profile_eq, Memory.entryAt?,
        outcome.tables]
    · exact outcome.pool.page_eq _ (sound.refs_pos found)

/-- The handler copies a page with the mark wherever there is a frame for the copy. -/
theorem execute_copyOnWrite_of_room {config : Config} {past : List MachineEvent} {me : EnvId}
    (library : LibraryState η) (handlers : Handlers η) (attempts : Nat) (fault : FaultRecord)
    {old : PageEntry} (running : (after config past).current = some me)
    (mapped : (after config past).kernel.entryOf me fault.address = some old)
    (written : fault.code &&& writeFault ≠ 0) (marked : old.flags.contains .copyOnWrite = true)
    (room : ∀ space, (after config past).kernel.space? me = some space →
      ((after config past).kernel.memory.mapFresh space copyPage .readWrite).1 = .ok ()) :
    ∃ last, Program.execute handlers (attempts + 1) (Program.copyOnWrite fault)
      ⟨library, after config past⟩ = some (.ok (), last) := by
  have permitted := permitted_after config past
  obtain ⟨slot, space, runs, rfl⟩ := (coupled_after config past).runs_of_running running
  have begun : (⟨library, after config past⟩ : UserState η Machine).cpu.Runs slot space := runs
  rw [Kernel.entryOf, runs.space?_eq, Option.bind_some] at mapped
  -- The copy ends one way or the other, and with a frame it cannot fail.
  obtain ⟨result, last, ends, -, ⟨rfl, -⟩ | ⟨full, -⟩⟩ :=
    Program.ends_copyOnWrite_marked handlers attempts begun permitted written
      ((Memory.entryAt?_congr (pageNumber_pageBase _)).trans mapped) marked
  · exact ⟨last, ends⟩
  · exact absurd (room space runs.space?_eq) full

/-- The second of two environments has its text twice, once to be copied before it is written. -/
def textShared : List MachineEvent :=
  startedTwo ++ [.syscall .mapPage { second := textStart, fourth := scratchStart, fifth := 0x805 }]

/-- A write to the second page gets a frame of its own, and the text keeps the first one. -/
theorem copiesPrivately_text : ∃ last new,
    Program.execute FaultPolicy.handlers 1
        (Program.copyOnWrite { address := scratchStart, code := 7 })
        ⟨{}, after { frames := 32 } textShared⟩ = some (.ok (), last) ∧
    (after { frames := 32 } textShared).kernel.CopiesPrivately last.cpu.kernel ⟨4097⟩ scratchStart
      4 new := by
  have running : (after { frames := 32 } textShared).current = some ⟨4097⟩ := by decide +kernel
  have mapped : (after { frames := 32 } textShared).kernel.entryOf ⟨4097⟩ scratchStart =
      some { frame := 4, flags := ⟨0x805⟩ } := by decide +kernel
  have vacant : (after { frames := 32 } textShared).kernel.entryOf ⟨4097⟩ copyPage = none := by
    decide +kernel
  have room : ∀ space, (after { frames := 32 } textShared).kernel.space? ⟨4097⟩ = some space →
      ((after { frames := 32 } textShared).kernel.memory.mapFresh space copyPage .readWrite).1 =
        .ok () := by
    have named : (after { frames := 32 } textShared).kernel.space? ⟨4097⟩ = some ⟨1⟩ := by
      decide +kernel
    rw [named]
    rintro _ ⟨⟩
    decide +kernel
  -- The copy succeeds, since there is a frame for it, and so the page has its new frame.
  obtain ⟨last, ran⟩ := execute_copyOnWrite_of_room {} FaultPolicy.handlers 0
    { address := scratchStart, code := 7 } running mapped (by decide) (by decide) room
  obtain ⟨result, final, again, outcome⟩ :=
    copiesPrivately_after { frames := 32 } textShared ⟨4097⟩ {} FaultPolicy.handlers 0
      { address := scratchStart, code := 7 } _ running mapped vacant
  obtain ⟨rfl, rfl⟩ := Prod.ext_iff.mp (Option.some.inj (ran.symm.trans again))
  obtain ⟨new, apart⟩ := outcome
  exact ⟨_, new, ran, apart⟩

end Machine

end Exokernel
