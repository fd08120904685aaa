import Exokernel.Proofs.Memory.Spaces

/-! What the operations on memory do to the bytes of frames, and where new mappings come from. -/

namespace Exokernel

namespace FramePool

variable {pool next : FramePool} {frame : FrameNumber}

/-- A change to one frame leaves the contents of the others alone. -/
theorem page_modify_other (pool : FramePool) {frame other : FrameNumber}
    (change : Frame → Frame) (different : other ≠ frame) :
    (pool.modify frame change).page other = pool.page other := by
  -- The change stops at its own number, and every other one is looked up as before.
  simp [page, modify, Array.getElem?_modify, Ne.symm different]

/-- A change that keeps the contents of its frame keeps all contents. -/
theorem page_modify_of_page_eq (pool : FramePool) (frame other : FrameNumber)
    {change : Frame → Frame} (kept : ∀ old, (change old).page = old.page) :
    (pool.modify frame change).page other = pool.page other := by
  -- The changed frame keeps its contents by assumption, and all others are not touched.
  by_cases same : other = frame
  · subst same
    cases found : pool.frames[other]? <;> simp [page, modify, Array.getElem?_modify, found, kept]
  · exact pool.page_modify_other change same

/-- A reference more changes no bytes. -/
@[simp] theorem page_incref (pool : FramePool) (frame other : FrameNumber) :
    (pool.incref frame).page other = pool.page other :=
  pool.page_modify_of_page_eq frame other fun _ => rfl

/-- To free a frame changes no bytes. -/
@[simp] theorem page_release (pool : FramePool) (frame other : FrameNumber) :
    (pool.release frame).page other = pool.page other := by
  -- Its bytes are cleared when it is handed out again, and not before.
  simp only [release]
  split <;> rfl

/-- A reference less changes no bytes. -/
@[simp] theorem page_decref (pool : FramePool) (frame other : FrameNumber) :
    (pool.decref frame).page other = pool.page other := by
  -- It is the count that is lowered.
  rw [decref, page_release]
  exact pool.page_modify_of_page_eq frame other fun _ => rfl

/-- Dropping references changes no contents. -/
theorem page_foldl_decref (frames : List FrameNumber) (pool : FramePool) (other : FrameNumber) :
    (frames.foldl FramePool.decref pool).page other = pool.page other := by
  -- Induct on the list: each reference that goes leaves all bytes where they are.
  induction frames generalizing pool with
  | nil => rfl
  | cons frame rest ih =>
    rw [List.foldl_cons, ih, page_decref]

/-- Every frame has the bytes it had, or was free and has zeros now. -/
def Clears (pool next : FramePool) : Prop :=
  ∀ frame, next.page frame = pool.page frame ∨ frame ∈ pool.free ∧ next.page frame = Page.zero

namespace Clears

/-- Frames in use keep their bytes. -/
theorem page_of_used (clears : Clears pool next) (used : frame ∉ pool.free) :
    next.page frame = pool.page frame := by
  -- Only free frames are cleared.
  rcases clears frame with kept | ⟨free, -⟩
  · exact kept
  · exact absurd free used

/-- Zeros stay zeros, in use or not. -/
theorem page_of_zero (clears : Clears pool next) (zero : pool.page frame = Page.zero) :
    next.page frame = Page.zero := by
  -- Whether the frame is kept or cleared, it has zeros.
  rcases clears frame with kept | ⟨-, cleared⟩
  · exact kept.trans zero
  · exact cleared

/-- A step that keeps all bytes can follow. -/
theorem followed (clears : Clears pool next) {last : FramePool}
    (kept : ∀ frame, last.page frame = next.page frame) : Clears pool last := by
  -- What the first step did to a frame is all that has been done to it.
  intro frame
  rw [kept]
  exact clears frame

end Clears

/-- Frames were taken off the free list and filled with zeros, and nothing else happened to them. -/
structure Supplies (pool next : FramePool) : Prop where
  /-- No frame was given back. -/
  free_subset : ∀ frame, frame ∈ next.free → frame ∈ pool.free
  /-- Only free frames got other contents. -/
  clears : Clears pool next

namespace Supplies

/-- Nothing may have happened to the pool. -/
theorem refl (pool : FramePool) : Supplies pool pool :=
  ⟨fun _ => id, fun _ => .inl rfl⟩

/-- Frames can be taken in several steps. -/
theorem trans {first second third : FramePool} (before : Supplies first second)
    (after : Supplies second third) : Supplies first third where
  free_subset frame free := before.free_subset frame (after.free_subset frame free)
  clears := by
    -- What is free in between was free at the start.
    intro frame
    rcases after.clears frame with kept | ⟨free, zero⟩
    · rw [kept]
      exact before.clears frame
    · exact .inr ⟨before.free_subset frame free, zero⟩

/-- Counting a reference takes no frame. -/
theorem incref (pool : FramePool) (frame : FrameNumber) : Supplies pool (pool.incref frame) :=
  ⟨fun _ => id, fun other => .inl (pool.page_incref frame other)⟩

end Supplies

/-- An allocated frame was free, and is all zeros now. -/
theorem alloc_ok_spec (allocated : pool.alloc = (.ok frame, next)) : frame ∈ pool.free ∧
    next.page frame = Page.zero ∧ Supplies pool next := by
  -- Only the branch that takes the head of the free list hands out a frame.
  simp only [alloc] at allocated
  split at allocated
  · simp at allocated
  · split at allocated
    · simp at allocated
    · rename_i first rest listed
      simp only [Prod.mk.injEq, Except.ok.injEq] at allocated
      obtain ⟨rfl, rfl⟩ := allocated
      have head : first ∈ pool.free := listed ▸ List.mem_cons_self
      have zero : ({ pool with free := rest }.modify first
          fun old => { old with page := Page.zero }).page first = Page.zero := by
        cases found : pool.frames[first]? <;> simp [page, modify, Array.getElem?_modify, found]
      refine ⟨head, zero, ⟨fun other free => listed ▸ List.mem_cons_of_mem first free, ?_⟩⟩
      intro other
      by_cases same : other = first
      · rw [same]
        exact .inr ⟨head, zero⟩
      · exact .inl (page_modify_other { pool with free := rest } _ same)

/-- Whether it succeeds or not, an allocation leaves the frames in use alone. -/
theorem supplies_alloc (pool : FramePool) : Supplies pool pool.alloc.2 := by
  cases allocated : pool.alloc with
  | mk result next =>
    cases result with
    | ok frame => exact (alloc_ok_spec allocated).2.2
    | error error =>
      -- At most the forced failure is used up.
      simp only [alloc] at allocated
      split at allocated
      · simp only [Prod.mk.injEq] at allocated
        rw [← allocated.2]
        exact ⟨fun _ => id, fun _ => .inl rfl⟩
      · split at allocated
        · simp only [Prod.mk.injEq] at allocated
          rw [← allocated.2]
          exact .refl pool
        · simp at allocated

end FramePool

namespace PageTable

open FramePool (Clears Supplies)

/-- Creating a page table leaves the frames in use alone. -/
theorem supplies_create (pool : FramePool) : Supplies pool (PageTable.create pool).2 := by
  have tried := pool.supplies_alloc
  unfold create
  -- The directory is allocated first, and then it is referred to.
  split
  · rename_i error next refused
    rwa [refused] at tried
  · rename_i directory next allocated
    rw [allocated] at tried
    exact tried.trans (.incref next directory)

/-- Providing for an address leaves the frames in use alone. -/
theorem supplies_ensureTable (table : PageTable) (pool : FramePool) (va : Address) :
    Supplies pool (table.ensureTable pool va).2 := by
  have tried := pool.supplies_alloc
  simp only [ensureTable]
  -- A table is made only where there is none, and only from a free frame.
  split
  · exact .refl pool
  · split
    · rename_i error next refused
      rwa [refused] at tried
    · rename_i frame next allocated
      rw [allocated] at tried
      exact tried.trans (.incref next frame)

/-- Mapping a page changes no bytes but those of a frame that the page table needs. -/
theorem clears_insert (table : PageTable) (pool : FramePool) (va : Address) (frame : FrameNumber)
    (flags : PageFlags) : Clears pool (table.insert pool va frame flags).2 := by
  -- References are counted after the page table has been provided for.
  have provided := (table.supplies_ensureTable pool va).clears
  simp only [insert]
  split
  · rename_i error next refused
    rwa [refused] at provided
  · rename_i made next ensured
    rw [ensured] at provided
    refine provided.followed fun other => ?_
    dsimp only
    split
    · rw [FramePool.page_decref, FramePool.page_incref]
    · exact FramePool.page_incref next frame other

/-- Mapping a page where nothing was mapped gives no frame back. -/
theorem supplies_insert {table : PageTable} {va : Address} (missing : table.entryAt? va = none)
    (pool : FramePool) (frame : FrameNumber) (flags : PageFlags) :
    Supplies pool (table.insert pool va frame flags).2 := by
  -- A frame is given back only in exchange for the one that is mapped.
  have provided := table.supplies_ensureTable pool va
  simp only [insert]
  split
  · rename_i error next refused
    rwa [refused] at provided
  · rename_i made next ensured
    have stillMissing : made.entryAt? va = none := by
      rw [entryAt?, (ensureTable_ok ensured).1, ← entryAt?, missing]
    rw [ensured] at provided
    simp only [stillMissing]
    exact provided.trans (.incref next frame)

/-- Removing a mapping changes no bytes. -/
@[simp] theorem page_remove (table : PageTable) (pool : FramePool) (va : Address)
    (other : FrameNumber) : (table.remove pool va).2.page other = pool.page other := by
  -- The entry goes, and its frame loses a reference.
  simp only [remove]
  split
  · exact pool.page_decref _ other
  · rfl

/-- Releasing a whole table changes no bytes. -/
@[simp] theorem page_release (table : PageTable) (pool : FramePool) (other : FrameNumber) :
    (table.release pool).page other = pool.page other :=
  FramePool.page_foldl_decref _ pool other

end PageTable

namespace Memory

open FramePool (Clears Supplies)

variable {memory next : Memory} {handle : SpaceHandle} {va : Address} {frame : FrameNumber}
  {flags : PageFlags}

/-- Mapping a frame changes no bytes but those of a frame that a page table needs. -/
theorem clears_map (memory : Memory) (handle : SpaceHandle) (va : Address) (frame : FrameNumber)
    (flags : PageFlags) : Clears memory.pool (memory.map handle va frame flags).2.pool := by
  -- The pool is changed by the page table alone, if it gets that far.
  have same : Clears memory.pool memory.pool := fun _ => .inl rfl
  simp only [map]
  split
  · exact same
  · split
    · exact same
    · split
      · exact same
      · rename_i table found
        have inserted := table.clears_insert memory.pool va frame flags
        split
        · rename_i error pool refused
          rwa [refused] at inserted
        · rename_i made pool done
          rw [done] at inserted
          rw [pool_putTable]
          exact inserted

/-- Mapping a frame where nothing was mapped gives no frame back. -/
theorem supplies_map (missing : memory.entryAt? handle va = none) (frame : FrameNumber)
    (flags : PageFlags) : Supplies memory.pool (memory.map handle va frame flags).2.pool := by
  -- The pool is changed by the page table alone, if it gets that far.
  have same : Supplies memory.pool memory.pool := .refl memory.pool
  simp only [map]
  split
  · exact same
  · split
    · exact same
    · split
      · exact same
      · rename_i table found
        have absent : table.entryAt? va = none := by simpa [entryAt?, found] using missing
        have inserted := PageTable.supplies_insert absent memory.pool frame flags
        split
        · rename_i error pool refused
          rwa [refused] at inserted
        · rename_i made pool done
          rw [done] at inserted
          rw [pool_putTable]
          exact inserted

/-- Removing a mapping changes no bytes. -/
@[simp] theorem page_unmap (memory : Memory) (handle : SpaceHandle) (va : Address)
    (other : FrameNumber) :
    (memory.unmap handle va).2.pool.page other = memory.pool.page other := by
  -- A space that exists has one entry less, and its frame one reference less.
  simp only [unmap]
  split
  · rfl
  · rename_i table found
    rw [pool_putTable]
    exact table.page_remove memory.pool va other

/-- Removing what is not mapped leaves the pool as it is. -/
theorem pool_unmap_of_none (missing : memory.entryAt? handle va = none) :
    (memory.unmap handle va).2.pool = memory.pool := by
  -- There is no space, or no entry, so that no frame loses a reference.
  cases found : memory.table? handle with
  | none => simp [unmap, found]
  | some table =>
    have absent : table.entryAt? va = none := by simpa [entryAt?, found] using missing
    simp [unmap_spec found, PageTable.remove, absent]

/-- Mapping a frame under a page table that exists changes no bytes. -/
theorem page_map_of_table {table : PageTable} (found : memory.table? handle = some table)
    (present : (table.tables.find? (tableIndex va)).isSome = true) (frame other : FrameNumber)
    (flags : PageFlags) :
    (memory.map handle va frame flags).2.pool.page other = memory.pool.page other := by
  -- Without a table to allocate, only references are counted.
  simp only [map]
  split
  · rfl
  · split
    · rfl
    · rw [found]
      simp only [PageTable.insert, PageTable.ensureTable_of_isSome present]
      rw [pool_putTable]
      dsimp only
      split
      · rw [FramePool.page_decref, FramePool.page_incref]
      · exact FramePool.page_incref _ _ _

/-- Creating a space leaves the frames in use alone. -/
theorem supplies_createSpace (memory : Memory) :
    Supplies memory.pool memory.createSpace.2.pool := by
  -- The directory takes a free frame, if there is one.
  have tried := PageTable.supplies_create memory.pool
  simp only [createSpace]
  split
  · rename_i error pool refused
    rwa [refused] at tried
  · rename_i table pool made
    rw [made] at tried
    rw [pool_putTable]
    exact tried

/-- Nothing is mapped in a new space. -/
theorem entryAt?_createSpace (created : memory.createSpace = (.ok handle, next)) (va : Address) :
    next.entryAt? handle va = none := by
  -- The table behind the new handle has just been made.
  obtain ⟨inRange, -⟩ := memory.vacantHandle_spec
  simp only [createSpace, PageTable.create] at created
  cases allocated : memory.pool.alloc with
  | mk result pool =>
    rw [allocated] at created
    cases result with
    | error error => simp at created
    | ok directory =>
      simp only [Prod.mk.injEq, Except.ok.injEq] at created
      obtain ⟨rfl, rfl⟩ := created
      have tables := ({ memory with pool := pool.incref directory } : Memory).table?_putTable
        (some { directory }) inRange memory.vacantHandle
      rw [entryAt?, tables, if_pos rfl]
      rfl

/-- A new space maps nothing, and so changes no entry of any space. -/
theorem entryAt?_of_createSpace (created : memory.createSpace = (.ok handle, next))
    (other : SpaceHandle) (va : Address) : next.entryAt? other va = memory.entryAt? other va := by
  -- The new handle named no space before, and the new space is empty.
  obtain ⟨unused, -, others, -⟩ := createSpace_ok_spec created
  by_cases new : other = handle
  · rw [new, entryAt?_createSpace created, entryAt?, unused]
    rfl
  · rw [entryAt?, others other new, entryAt?]

/-- Destroying a space changes no bytes. -/
@[simp] theorem page_destroySpace (memory : Memory) (handle : SpaceHandle) (other : FrameNumber) :
    (memory.destroySpace handle).2.pool.page other = memory.pool.page other := by
  -- All that it held loses references, which changes no bytes.
  simp only [destroySpace]
  split
  · rfl
  · rename_i table found
    rw [pool_putTable]
    exact table.page_release memory.pool other

/-- A mapping that fails leaves every space as it was. -/
theorem table?_map_error {error : SpaceError}
    (refused : memory.map handle va frame flags = (.error error, next)) (other : SpaceHandle) :
    next.table? other = memory.table? other := by
  -- What has changed is the pool, which may have lent a frame.
  obtain ⟨pool, rfl, -⟩ := map_error_spec refused
  rfl

/-- A fresh page that cannot be mapped leaves every space as it was. -/
theorem table?_mapFresh_error {error : SysError}
    (refused : memory.mapFresh handle va flags = (.error error, next)) (other : SpaceHandle) :
    next.table? other = memory.table? other := by
  -- Neither a failed allocation nor the way back from a failed mapping touches a table.
  simp only [mapFresh, allocFrame] at refused
  cases allocated : memory.pool.alloc with
  | mk result pool =>
    rw [allocated] at refused
    cases result with
    | error cause =>
      simp only [Prod.mk.injEq] at refused
      rw [← refused.2]
      rfl
    | ok frame =>
      dsimp only at refused
      split at refused
      · rename_i cause after failed
        simp only [Prod.mk.injEq] at refused
        rw [← refused.2]
        exact table?_map_error failed other
      · simp at refused

/-- A fresh page is all zeros, and its frame was free. -/
theorem mapFresh_ok_spec (mapped : memory.mapFresh handle va flags = (.ok (), next)) :
    ∃ frame, frame ∈ memory.pool.free ∧ next.pool.page frame = Page.zero ∧
      ∀ other, next.entryAt? handle other =
        if pageNumber other = pageNumber va then some { frame, flags := flags ||| .present }
        else memory.entryAt? handle other := by
  -- The frame comes off the free list filled with zeros, and mapping it changes no bytes of it.
  simp only [mapFresh, allocFrame] at mapped
  cases allocated : memory.pool.alloc with
  | mk result pool =>
    rw [allocated] at mapped
    cases result with
    | error cause => simp at mapped
    | ok frame =>
      dsimp only at mapped
      split at mapped
      · simp at mapped
      · rename_i after done
        simp only [Prod.mk.injEq, true_and] at mapped
        subst mapped
        obtain ⟨free, zero, -⟩ := FramePool.alloc_ok_spec allocated
        have cleared := clears_map { memory with pool } handle va frame flags
        rw [done] at cleared
        have entries := entryAt?_map done
        exact ⟨frame, free, cleared.page_of_zero zero, entries⟩

/-- Mapping a fresh page changes no bytes but those of frames that were free. -/
theorem clears_mapFresh (memory : Memory) (handle : SpaceHandle) (va : Address)
    (flags : PageFlags) : Clears memory.pool (memory.mapFresh handle va flags).2.pool := by
  -- Both the page and its page table may take a frame, and the page's may go back.
  simp only [mapFresh, allocFrame]
  have taken := memory.pool.supplies_alloc
  cases allocated : memory.pool.alloc with
  | mk result pool =>
    rw [allocated] at taken
    cases result with
    | error cause => exact taken.clears
    | ok frame =>
      have placed := clears_map { memory with pool } handle va frame flags
      dsimp only at placed taken ⊢
      have both : Clears memory.pool
          (Memory.map { memory with pool } handle va frame flags).2.pool := by
        intro other
        rcases placed other with kept | ⟨free, zero⟩
        · rw [kept]
          exact taken.clears other
        · exact .inr ⟨taken.free_subset other free, zero⟩
      split
      · rename_i cause after failed
        rw [failed] at both
        exact both.followed (after.pool.page_release frame)
      · rename_i after done
        rwa [done] at both

/-- Mapping a fresh page where nothing was mapped adds no frame to the free list. -/
theorem supplies_mapFresh (missing : memory.entryAt? handle va = none) (flags : PageFlags) :
    Supplies memory.pool (memory.mapFresh handle va flags).2.pool := by
  refine ⟨?_, clears_mapFresh memory handle va flags⟩
  simp only [mapFresh, allocFrame]
  have taken := memory.pool.supplies_alloc
  cases allocated : memory.pool.alloc with
  | mk result pool =>
    rw [allocated] at taken
    cases result with
    | error cause => exact taken.free_subset
    | ok frame =>
      obtain ⟨free, -, -⟩ := FramePool.alloc_ok_spec allocated
      have stillMissing : ({ memory with pool } : Memory).entryAt? handle va = none := missing
      have placed := taken.trans (supplies_map stillMissing frame flags)
      dsimp only
      split
      · -- The frame that goes back was on the list at the start.
        rename_i cause after failed
        rw [failed] at placed
        intro other listed
        simp only [releaseFrame, FramePool.release] at listed
        split at listed
        · rcases List.mem_cons.mp listed with rfl | listed
          · exact free
          · exact placed.free_subset other listed
        · exact placed.free_subset other listed
      · rename_i after done
        rw [done] at placed
        exact placed.free_subset

/-- Writing bytes takes no frame and gives none back. -/
theorem free_copyOut (memory : Memory) (handle : SpaceHandle) (va : Address)
    (bytes : List UInt8) :
    (memory.copyOut handle va bytes).2.pool.free = memory.pool.free := by
  -- Induct on the bytes, each of which goes to a frame that is mapped.
  fun_induction copyOut memory handle va bytes with
  | case1 => rfl
  | case2 => rfl
  | case3 memory va byte rest entry found pool ih => exact ih

/-- Writing to a range changes no frame but those that the range is mapped to. -/
theorem page_copyOut {bytes : List UInt8}
    (elsewhere : ∀ offset < bytes.length, ∀ entry,
      memory.entryAt? handle (va + UInt32.ofNat offset) = some entry → entry.frame ≠ frame) :
    (memory.copyOut handle va bytes).2.pool.page frame = memory.pool.page frame := by
  -- Induct on the bytes: the first one goes to another frame, and so do those after it.
  fun_induction copyOut memory handle va bytes with
  | case1 => rfl
  | case2 => rfl
  | case3 memory va byte rest entry found pool ih =>
    have first : entry.frame ≠ frame := elsewhere 0 (by simp) entry (by simpa using found)
    have kept : pool.page frame = memory.pool.page frame :=
      memory.pool.page_modify_other _ (Ne.symm first)
    rw [ih, kept]
    intro offset inside entry later
    rw [← offset_succ] at later
    exact elsewhere (offset + 1) (by simpa using inside) entry later

end Memory

end Exokernel
