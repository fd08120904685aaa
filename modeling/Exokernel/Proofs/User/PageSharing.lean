import Exokernel.Proofs.Memory.Duplication
import Exokernel.Proofs.User.ChildCalls

/-! A parent shares its pages with a child one by one, until all are shared or memory runs out. -/

namespace Exokernel

/-- An entry that user code has asked for is mapped for user mode. -/
theorem PageEntry.contains_required {entry : PageEntry}
    (allowed : entry.flags.isUserPermission = true) :
    (⟨entry.raw⟩ : PageFlags).contains .required = true := by
  simp only [PageFlags.isUserPermission, Bool.and_eq_true] at allowed
  -- The frame's address adds bits to those of the flags, and takes none away.
  refine PageFlags.contains_iff.mpr fun index wanted => ?_
  have has := PageFlags.contains_iff.mp allowed.1 index wanted
  show (frameAddress entry.frame ||| entry.flags.bits).toBitVec.getLsbD index = true
  rw [UInt32.toBitVec_or, BitVec.getLsbD_or, has, Bool.or_true]

namespace Program

variable {η : Type} {handlers : Handlers η} {attempts : Nat} {start now next : UserState η Machine}
  {slot : Slot} {space child : SpaceHandle} {id : EnvId} {env : Env} {pages : List Word}
  {result : Except UserError Unit}

/-- The pages of a table are those with its index, below the end of the normal stack. -/
theorem mem_pagesOfTable {index : Nat} {page : Word} : page ∈ pagesOfTable index ↔
    page.toNat / 1024 = index ∧ page < pageNumber stackTop := by
  -- The last table is covered only in part, up to the stack top.
  have top : (pageNumber stackTop).toNat = 977918 := by decide
  have entries : tableEntries = 1024 := rfl
  simp only [pagesOfTable, List.mem_map, List.mem_range, UInt32.lt_iff_toNat_lt, top, entries]
  constructor
  · rintro ⟨offset, inside, rfl⟩
    rw [UInt32.toNat_ofNat_of_lt' (by simp only [UInt32.size]; omega)]
    omega
  · rintro ⟨rfl, below⟩
    refine ⟨page.toNat % 1024, by omega, UInt32.toNat_inj.mp ?_⟩
    rw [UInt32.toNat_ofNat_of_lt' (by simp only [UInt32.size]; omega)]
    omega

/-- All pages that a parent goes through, table by table. -/
def sharedPages : List Word :=
  (List.range ((tableIndex (stackTop - 1)).toNat + 1)).flatMap pagesOfTable

/-- No page below the end of the normal stack is left out. -/
theorem mem_sharedPages {page : Word} : page ∈ sharedPages ↔ page < pageNumber stackTop := by
  -- The stack ends two pages before the last table does.
  have last : (tableIndex (stackTop - 1)).toNat = 954 := by decide
  have top : (pageNumber stackTop).toNat = 977918 := by decide
  simp only [sharedPages, List.mem_flatMap, List.mem_range, mem_pagesOfTable, last]
  constructor
  · rintro ⟨index, -, -, below⟩
    exact below
  · intro below
    have small := UInt32.lt_iff_toNat_lt.mp below
    exact ⟨page.toNat / 1024, by omega, rfl, below⟩

/-- A parent has shared some pages with a child that has no others. -/
structure Spawning (start now : UserState η Machine) (slot : Slot) (space child : SpaceHandle)
    (id : EnvId) (env : Env) (pages : List Word) : Prop
    extends Tends start now slot space id env where
  /-- The space of the child. -/
  held : env.space = some child
  /-- All permissions are ones that user code may ask for. -/
  permitted : now.cpu.kernel.memory.Permitted
  /-- What the two spaces have in common. -/
  duplicates : start.cpu.kernel.memory.Duplicates now.cpu.kernel.memory space child pages

/-- A parent has a child that took references away from nobody, so that it can go again. -/
structure Expendable (start now : UserState η Machine) (slot : Slot) (space child : SpaceHandle)
    (id : EnvId) (env : Env) : Prop extends Tends start now slot space id env where
  /-- The space of the child. -/
  held : env.space = some child
  /-- Some pages of the parent are shared. -/
  lends : ∃ pages, start.cpu.kernel.memory.Lends now.cpu.kernel.memory space child pages

/-- A child has its share of the pages, and a page of its own on which handlers run. -/
structure Complete (start now : UserState η Machine) (slot : Slot) (space child : SpaceHandle)
    (id : EnvId) (env : Env) : Prop extends Tends start now slot space id env where
  /-- The space of the child. -/
  held : env.space = some child
  /-- What the two spaces have in common, and what is the child's alone. -/
  furnishes : start.cpu.kernel.memory.Furnishes now.cpu.kernel.memory space child sharedPages
    (exceptionStackTop - pageSize)

namespace Spawning

variable (spawning : Spawning start now slot space child id env pages)
include spawning

/-- The space that all is compared with was sound, with as many frames as there are now. -/
theorem sound (begun : start.cpu.Coupled) :
    start.cpu.kernel.memory.Sound (FramePool.listed now.cpu.kernel.config.frames) 0 := by
  -- The number of frames never changes.
  rw [spawning.config_eq]
  exact begun.settled.memory

/-- A refused request for the child leaves it as expendable as it was. -/
theorem refused (begun : start.cpu.Coupled) (stays : Stays now next slot space)
    (outside : Memory.SameOutside child now.cpu.kernel.memory next.cpu.kernel.memory)
    (clears : FramePool.Clears now.cpu.kernel.memory.pool next.cpu.kernel.memory.pool) :
    Expendable start next slot space child id env where
  toTends := spawning.toTends.stays stays
  held := spawning.held
  lends := ⟨pages, spawning.duplicates.outside (spawning.sound begun)
    spawning.runs.coupled.settled.memory outside clears⟩

/-- A page that is mapped starts at an aligned address of user memory. -/
theorem page_of_mapped {page : Word} {entry : PageEntry}
    (mapped : now.cpu.kernel.memory.entryAt? space (page * pageSize) = some entry) :
    isAligned (page * pageSize) = true ∧ page * pageSize < userTop :=
  ⟨isAligned_mul page, spawning.runs.coupled.settled.memory.lt_userTop mapped⟩

/-- The child is offered a page first, and gets it unless memory runs out. -/
theorem ends_give (begun : start.cpu.Coupled) (handlers : Handlers η) (attempts : Nat)
    {page : Word} {entry : PageEntry}
    (mapped : now.cpu.kernel.memory.entryAt? space (page * pageSize) = some entry) :
    ∃ given made, Ends (reply handlers attempts)
        (mapPage .self (page * pageSize) id (page * pageSize) entry.flags.demoted) now given made ∧
      Stays now made slot space ∧
      Outcome (fun () => now.cpu.kernel.memory.map child (page * pageSize) entry.frame
          entry.flags.demoted = (.ok (), made.cpu.kernel.memory))
        (Expendable start made slot space child id env) given := by
  obtain ⟨aligned, below⟩ := spawning.page_of_mapped mapped
  obtain ⟨made, giving, stays, memory⟩ := ends_mapPage_of handlers attempts spawning.runs
    (spawning.reaches spawning.held) aligned below aligned below
    (PageFlags.isUserPermission_demoted (spawning.permitted _ _ _ mapped)) mapped
    (fun writes => by simp [PageFlags.not_writable_demoted] at writes)
  refine ⟨_, made, giving, stays, ?_⟩
  have outside := now.cpu.kernel.memory.sameOutside_map child (page * pageSize) entry.frame
    entry.flags.demoted
  have clears := now.cpu.kernel.memory.clears_map child (page * pageSize) entry.frame
    entry.flags.demoted
  rw [← memory] at outside clears
  -- A refusal may have used up frames for page tables of the child, which go with it.
  have refused := spawning.refused begun stays outside clears
  rcases given : now.cpu.kernel.memory.map child (page * pageSize) entry.frame
    entry.flags.demoted with ⟨outcome, next⟩
  rw [given] at memory
  cases outcome with
  | ok => exact congrArg (Prod.mk (Except.ok ())) memory.symm
  | error error => exact refused

/-- Once the child has a page, its parent takes over the same permission, which cannot fail. -/
theorem ends_take (handlers : Handlers η) (attempts : Nat) {made : UserState η Machine}
    {page : Word} {entry : PageEntry} (stays : Stays now made slot space)
    (mapped : now.cpu.kernel.memory.entryAt? space (page * pageSize) = some entry)
    (placed : now.cpu.kernel.memory.map child (page * pageSize) entry.frame
      entry.flags.demoted = (.ok (), made.cpu.kernel.memory)) :
    ∃ last, Ends (reply handlers attempts)
        (mapPage .self (page * pageSize) .self (page * pageSize) entry.flags.demoted) made
        (.ok ()) last ∧
      Stays made last slot space ∧ made.cpu.kernel.memory.map space (page * pageSize) entry.frame
        entry.flags.demoted = (.ok (), last.cpu.kernel.memory) := by
  obtain ⟨aligned, below⟩ := spawning.page_of_mapped mapped
  -- The page is still mapped, since the child has another space.
  have outside := now.cpu.kernel.memory.sameOutside_map child (page * pageSize) entry.frame
    entry.flags.demoted
  rw [placed] at outside
  have still := (Memory.entryAt?_of_others outside (Ne.symm spawning.duplicates.ne) _).trans mapped
  obtain ⟨last, taking, goes, memory⟩ := ends_mapPage_of handlers attempts stays.runs
    stays.runs.reaches_self aligned below aligned below
    (PageFlags.isUserPermission_demoted (spawning.permitted _ _ _ mapped)) still
    (fun writes => by simp [PageFlags.not_writable_demoted] at writes)
  have granted := stays.runs.coupled.settled.memory.map_mapped still aligned below entry.frame
    entry.flags.demoted
  rw [granted] at taking
  exact ⟨last, taking, goes, Prod.ext granted memory.symm⟩

/-- Once the child has a page as it is to be shared, permissions are still in order. -/
theorem permitted_of_placed {made : UserState η Machine} {page : Word} {entry : PageEntry}
    (mapped : now.cpu.kernel.memory.entryAt? space (page * pageSize) = some entry)
    (placed : now.cpu.kernel.memory.map child (page * pageSize) entry.frame
      entry.flags.demoted = (.ok (), made.cpu.kernel.memory)) :
    made.cpu.kernel.memory.Permitted :=
  (Memory.installs_map placed).permitted_of_allowed spawning.permitted
    (PageFlags.isUserPermission_demoted (spawning.permitted _ _ _ mapped))

/-- A page that could be written to is shared by a change on both sides, the child first. -/
theorem exchangePage (begun : start.cpu.Coupled) {page : Word} {entry : PageEntry}
    (mapped : now.cpu.kernel.memory.entryAt? space (page * pageSize) = some entry)
    (ends : Ends (reply handlers attempts) (do
        mapPage .self (page * pageSize) id (page * pageSize) entry.flags.demoted
        mapPage .self (page * pageSize) .self (page * pageSize) entry.flags.demoted)
      now result next) :
    Outcome (fun () => Spawning start next slot space child id env
        (pages ++ [pageNumber (page * pageSize)]))
      (Expendable start next slot space child id env) result := by
  have allowed := spawning.permitted _ _ _ mapped
  -- If the child got the page, the parent's own change cannot fail.
  obtain ⟨given, made, giving, stays, outcome⟩ :=
    spawning.ends_give begun handlers attempts mapped
  cases given with
  | error failure =>
    obtain ⟨rfl, rfl⟩ := giving.bind_error_iff.mp ends
    exact outcome
  | ok =>
    rw [giving.bind_iff] at ends
    have placed : now.cpu.kernel.memory.map child (page * pageSize) entry.frame
      entry.flags.demoted = (.ok (), made.cpu.kernel.memory) := outcome
    have handed := stays.runs.coupled.settled.memory
    rw [stays.config_eq] at handed
    obtain ⟨last, taking, goes, taken⟩ := spawning.ends_take handlers attempts stays mapped placed
    obtain ⟨rfl, rfl⟩ := ends.unique taking
    exact
      { toTends := (spawning.toTends.stays stays).stays goes
        held := spawning.held
        permitted := (Memory.installs_map taken).permitted_of_allowed
          (spawning.permitted_of_placed mapped placed) (PageFlags.isUserPermission_demoted allowed)
        duplicates := spawning.duplicates.exchange (spawning.sound begun)
          spawning.runs.coupled.settled.memory mapped allowed placed handed taken }

/-- Any other page is shared by giving it away with the permission that it has. -/
theorem givePage (begun : start.cpu.Coupled) {page : Word} {entry : PageEntry}
    (mapped : now.cpu.kernel.memory.entryAt? space (page * pageSize) = some entry)
    (same : entry.flags.demoted = entry.flags)
    (ends : Ends (reply handlers attempts)
      (mapPage .self (page * pageSize) id (page * pageSize) entry.flags) now result next) :
    Outcome (fun () => Spawning start next slot space child id env
        (pages ++ [pageNumber (page * pageSize)]))
      (Expendable start next slot space child id env) result := by
  -- The page is not writable, so that the parent's entry may stay.
  obtain ⟨given, made, giving, stays, outcome⟩ :=
    spawning.ends_give begun handlers attempts mapped
  rw [same] at giving
  obtain ⟨rfl, rfl⟩ := ends.unique giving
  cases result with
  | error failure => exact outcome
  | ok =>
    exact
      { toTends := spawning.toTends.stays stays
        held := spawning.held
        permitted := spawning.permitted_of_placed mapped outcome
        duplicates := spawning.duplicates.share (spawning.sound begun)
          spawning.runs.coupled.settled.memory mapped (spawning.permitted _ _ _ mapped) outcome
          same }

/-- A page that is mapped is shared, and taken back from the parent if it could write to it. -/
theorem sharePage (begun : start.cpu.Coupled) {page : Word} {entry : PageEntry}
    (mapped : now.cpu.kernel.memory.entryAt? space (page * pageSize) = some entry)
    (ends : Ends (reply handlers attempts) (sharePage id page) now result next) :
    Outcome (fun () => Spawning start next slot space child id env
        (pages ++ [pageNumber (page * pageSize)]))
      (Expendable start next slot space child id env) result := by
  have looked := ends_permissionAt_of handlers attempts spawning.runs spawning.permitted
    (page * pageSize)
  rw [mapped, Option.map_some, Option.getD_some] at looked
  unfold Program.sharePage at ends
  rw [looked.bind_iff] at ends
  dsimp only at ends
  -- The permission that is looked up decides which of the two ways is taken.
  split at ends
  · rename_i meets
    have same : entry.flags.without .writable ||| .copyOnWrite = entry.flags.demoted :=
      (if_pos meets).symm
    rw [same] at ends
    exact spawning.exchangePage begun mapped ends
  · rename_i apart
    exact spawning.givePage begun mapped (if_neg apart) ends

/-- A page is shared if it is mapped for user mode; otherwise there is nothing to share. -/
theorem shareIfMapped (begun : start.cpu.Coupled) {page : Word} (small : page.toNat < 1048576)
    (ends : Ends (reply handlers attempts) (shareIfMapped id page) now result next) :
    Outcome (fun () => Spawning start next slot space child id env (pages ++ [page]))
      (Expendable start next slot space child id env) result := by
  have here := pageNumber_mul small
  have looked : Ends (reply handlers attempts) (ask (.pageEntry page)) now
      (.ok (now.cpu.pageEntry page)) now := ends_ask.mpr rfl
  unfold Program.shareIfMapped at ends
  rw [looked.bind_iff, spawning.runs.pageEntry_eq rfl] at ends
  cases mapped : now.cpu.kernel.memory.entryAt? space (page * pageSize) with
  | some entry =>
    -- Whatever is mapped is mapped for user mode, so that it is shared.
    have allowed := spawning.permitted _ _ _ mapped
    rw [mapped, Option.map_some, Option.getD_some,
      if_pos (PageEntry.contains_required allowed)] at ends
    have shared := spawning.sharePage begun mapped ends
    rwa [here] at shared
  | none =>
    -- Nothing is mapped on either side.
    have idle : ¬(⟨0⟩ : PageFlags).contains .required = true := by decide
    rw [mapped, Option.map_none, Option.getD_none, if_neg idle] at ends
    obtain ⟨rfl, rfl⟩ := ends_pure.mp ends
    refine { spawning with duplicates := spawning.duplicates.skip fun va listed => ?_ }
    rw [List.mem_singleton, ← here] at listed
    rw [Memory.entryAt?_congr listed, mapped]

/-- The pages of one table are shared, as far as there is one. -/
theorem shareTable (begun : start.cpu.Coupled) {index : Nat}
    (ends : Ends (reply handlers attempts) (shareTable id index) now result next) :
    Outcome (fun () => Spawning start next slot space child id env (pages ++ pagesOfTable index))
      (Expendable start next slot space child id env) result := by
  have looked : Ends (reply handlers attempts) (ask (.tableEntry (UInt32.ofNat index))) now
      (.ok (now.cpu.tableEntry (UInt32.ofNat index))) now := ends_ask.mpr rfl
  unfold Program.shareTable at ends
  rw [looked.bind_iff] at ends
  split at ends
  · -- Page after page, those that were shared before stay shared.
    refine ends_forM_iterated (fun taken now => Spawning start now slot space child id env taken)
      (fun now => Expendable start now slot space child id env)
      (fun taken page listed before result after kept ending => ?_) spawning ends
    have below := UInt32.lt_iff_toNat_lt.mp (mem_pagesOfTable.mp listed).2
    have top : (pageNumber stackTop).toNat = 977918 := by decide
    exact kept.shareIfMapped begun (by omega) ending
  · rename_i missing
    obtain ⟨rfl, rfl⟩ := ends_pure.mp ends
    refine { spawning with duplicates := spawning.duplicates.skip fun va listed => ?_ }
    -- A page that were mapped would have its page table.
    obtain ⟨place, -⟩ := mem_pagesOfTable.mp listed
    have covered : tableIndex va = UInt32.ofNat index := by
      have bound := toNat_pageNumber_lt va
      rw [← place, tableIndex_eq]
      refine UInt32.toNat_inj.mp ?_
      rw [UInt32.toNat_div, UInt32.toNat_ofNat_of_lt' (by simp only [UInt32.size]; omega)]
      rfl
    by_contra mapped
    obtain ⟨entry, found⟩ := Option.ne_none_iff_exists'.mp mapped
    obtain ⟨frame, there⟩ := Option.isSome_iff_exists.mp
      (spawning.runs.coupled.settled.memory.tableFrame?_isSome found)
    rw [covered] at there
    simp [Machine.tableEntry, spawning.runs.active, there, isPresent_tableEntry] at missing

end Spawning

namespace Spawning

/-- Once all pages are shared, the child gets a page of its own, unless memory runs out. -/
theorem furnish (begun : start.cpu.Coupled)
    (spawning : Spawning start now slot space child id env sharedPages)
    (ends : Ends (reply handlers attempts) (allocPage id (exceptionStackTop - pageSize) .readWrite)
      now result next) :
    Outcome (fun () => Complete start next slot space child id env)
      (Expendable start next slot space child id env) result := by
  have sound := spawning.sound begun
  have between := spawning.runs.coupled.settled.memory
  obtain ⟨made, allocating, stays, memory⟩ := ends_allocPage_of handlers attempts spawning.runs
    (spawning.reaches spawning.held) (by decide : isAligned (exceptionStackTop - pageSize) = true)
    (by decide) (by decide : PageFlags.readWrite.isUserPermission = true)
  obtain ⟨rfl, rfl⟩ := ends.unique allocating
  rcases taken : now.cpu.kernel.memory.mapFresh child (exceptionStackTop - pageSize) .readWrite
    with ⟨outcome, last⟩
  have outside := now.cpu.kernel.memory.sameOutside_mapFresh child (exceptionStackTop - pageSize)
    .readWrite
  have clears := now.cpu.kernel.memory.clears_mapFresh child (exceptionStackTop - pageSize)
    .readWrite
  rw [← memory] at outside clears
  -- Without memory the child is as expendable as before.
  cases outcome with
  | error error => exact spawning.refused begun stays outside clears
  | ok =>
    rw [taken] at memory
    have after := stays.runs.coupled.settled.memory
    rw [stays.config_eq] at after
    exact
      { toTends := spawning.toTends.stays stays
        held := spawning.held
        furnishes := spawning.duplicates.furnish sound between after (memory ▸ taken) }

/-- A child gets all that it needs to run, or memory runs out on the way. -/
theorem shareSpace (begun : start.cpu.Coupled)
    (spawning : Spawning start now slot space child id env [])
    (ends : Ends (reply handlers attempts) (shareSpace id) now result next) :
    Outcome (fun () => Complete start next slot space child id env)
      (Expendable start next slot space child id env) result := by
  unfold Program.shareSpace at ends
  -- Table after table, the pages of those before stay shared.
  have walked {middle : UserState η Machine} {outcome : Except UserError Unit}
      (ending : Ends (reply handlers attempts)
        ((List.range ((tableIndex (stackTop - 1)).toNat + 1)).forM (Program.shareTable id)) now
        outcome middle) :
      Outcome (fun () => Spawning start middle slot space child id env sharedPages)
        (Expendable start middle slot space child id env) outcome := by
    have none_ : Spawning start now slot space child id env ([].flatMap pagesOfTable) := spawning
    have all := ends_forM_iterated
      (fun taken now => Spawning start now slot space child id env (taken.flatMap pagesOfTable))
      (fun now => Expendable start now slot space child id env)
      (fun taken index _ before result after kept ending => by
        rw [List.flatMap_append, List.flatMap_singleton]
        exact kept.shareTable begun ending) none_ ending
    rwa [List.nil_append] at all
  rcases ends_bind_iff.mp ends with ⟨⟨⟩, middle, tables, allocating⟩ | ⟨failure, rfl, tables⟩
  · exact furnish begun (walked tables) allocating
  · exact walked tables

end Spawning

end Program

end Exokernel
