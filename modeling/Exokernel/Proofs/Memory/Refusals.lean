import Exokernel.Proofs.Memory.Contents

/-! Memory that runs out in the middle of an operation is left as the operation found it. -/

namespace Exokernel

namespace FramePool

/-- The same frames are in use and free, and those in use have the same bytes. -/
structure Keeps (pool next : FramePool) : Prop where
  /-- The same frames are free, in the same order. -/
  free_eq : next.free = pool.free
  /-- The counters are the same. -/
  refs_eq : ∀ frame, next.refs frame = pool.refs frame
  /-- Whatever is referenced has the same bytes. -/
  page_eq : ∀ frame, 0 < pool.refs frame → next.page frame = pool.page frame
  /-- No failure is forced that was not forced before. -/
  spent : next.failNext = true → pool.failNext = true

namespace Keeps

variable {pool next last : FramePool}

/-- A pool is kept while nothing happens. -/
theorem refl (pool : FramePool) : Keeps pool pool :=
  ⟨rfl, fun _ => rfl, fun _ _ => rfl, id⟩

/-- Two steps that keep a pool are one. -/
theorem trans (before : Keeps pool next) (after : Keeps next last) : Keeps pool last where
  free_eq := after.free_eq.trans before.free_eq
  refs_eq frame := (after.refs_eq frame).trans (before.refs_eq frame)
  page_eq frame used :=
    (after.page_eq frame (before.refs_eq frame ▸ used)).trans (before.page_eq frame used)
  spent := before.spent ∘ after.spent

/-- An allocation that fails uses up at most a forced failure. -/
theorem alloc {error : MapError} (refused : pool.alloc = (.error error, next)) :
    Keeps pool next := by
  -- It fails because it was told to, or because no frame is free.
  simp only [FramePool.alloc] at refused
  split at refused
  · rw [Prod.mk.injEq] at refused
    rw [← refused.2]
    exact ⟨rfl, fun _ => rfl, fun _ _ => rfl, fun forced => by simp at forced⟩
  · split at refused
    · rw [Prod.mk.injEq] at refused
      rw [← refused.2]
      exact refl pool
    · simp at refused

/-- A frame that is taken and given back is where it was, as the first of the free ones. -/
theorem released {frame : FrameNumber} {taken : FramePool} (unused : pool.refs frame = 0)
    (allocated : pool.alloc = (.ok frame, taken)) (kept : Keeps taken last) :
    Keeps pool (last.release frame) := by
  simp only [FramePool.alloc] at allocated
  split at allocated
  · simp at allocated
  · split at allocated
    · simp at allocated
    · rename_i first rest listed
      simp only [Prod.mk.injEq, Except.ok.injEq] at allocated
      obtain ⟨rfl, rfl⟩ := allocated
      have refs (other : FrameNumber) : last.refs other = pool.refs other :=
        (kept.refs_eq other).trans (refs_modify_of_refs_eq _ _ _ fun _ => rfl)
      rw [release, if_pos ((refs first).trans unused)]
      refine ⟨?_, refs, fun other used => ?_, kept.spent⟩
      · show first :: last.free = pool.free
        rw [kept.free_eq, listed]
        rfl
      · -- Only the frame that was taken was filled with zeros, and it is not in use.
        have different : other ≠ first := by
          rintro rfl
          omega
        refine (kept.page_eq other ?_).trans (page_modify_other _ _ different)
        rwa [← kept.refs_eq, refs]

end Keeps

end FramePool

namespace PageTable

variable {table : PageTable} {pool next : FramePool} {va : Address} {frame : FrameNumber}
  {flags : PageFlags} {error : MapError}

/-- A table that cannot be created takes no frame. -/
theorem keeps_create (refused : create pool = (.error error, next)) : pool.Keeps next := by
  -- Taking a frame is the only step that can fail.
  simp only [create] at refused
  split at refused
  · rename_i cause pool' failed
    rw [Prod.mk.injEq] at refused
    rw [← refused.2]
    exact .alloc failed
  · simp at refused

/-- A page that cannot be mapped takes no frame, since only its page table could be missing. -/
theorem keeps_insert (refused : table.insert pool va frame flags = (.error error, next)) :
    pool.Keeps next := by
  simp only [insert, ensureTable] at refused
  -- The only refusal is that of a frame for the page table.
  split at refused
  · rename_i cause pool' provided
    rw [Prod.mk.injEq] at refused
    split at provided
    · simp at provided
    · split at provided
      · rename_i cause' pool'' failed
        rw [Prod.mk.injEq] at provided
        rw [← refused.2, ← provided.2]
        exact .alloc failed
      · simp at provided
  · simp at refused

end PageTable

namespace Memory

/-- All mappings are the same, and so are the frames in use and their bytes. -/
structure Intact (memory next : Memory) : Prop where
  /-- Every space maps the same pages, with the same page tables. -/
  tables : ∀ handle, next.table? handle = memory.table? handle
  /-- The processor uses the same space. -/
  active_eq : next.active = memory.active
  /-- The pool is the same. -/
  pool : memory.pool.Keeps next.pool

namespace Intact

variable {memory next : Memory} {handle : SpaceHandle} {va : Address} {frame : FrameNumber}
  {flags : PageFlags} {size : Nat}

/-- Memory is intact while nothing happens. -/
theorem refl (memory : Memory) : Intact memory memory :=
  ⟨fun _ => rfl, rfl, .refl _⟩

/-- Two steps that leave memory intact are one. -/
theorem trans {last : Memory} (before : Intact memory next) (after : Intact next last) :
    Intact memory last where
  tables handle := (after.tables handle).trans (before.tables handle)
  active_eq := after.active_eq.trans before.active_eq
  pool := before.pool.trans after.pool

/-- Memory is intact if its pool is kept. -/
theorem setPool {pool : FramePool} (kept : memory.pool.Keeps pool) :
    Intact memory { memory with pool } :=
  ⟨fun _ => rfl, rfl, kept⟩

/-- A space that cannot be created. -/
theorem createSpace {error : SpaceError} (refused : memory.createSpace = (.error error, next)) :
    Intact memory next := by
  -- Without a page table there is no space to enter.
  simp only [Memory.createSpace] at refused
  split at refused
  · rename_i cause pool failed
    rw [Prod.mk.injEq] at refused
    rw [← refused.2]
    exact setPool (PageTable.keeps_create failed)
  · simp at refused

/-- A mapping that fails. -/
theorem map {error : SpaceError}
    (refused : memory.map handle va frame flags = (.error error, next)) : Intact memory next := by
  -- The request is refused before the table is touched, or there is no frame for a page table.
  obtain ⟨pool, rfl, rfl | ⟨table, cause, -, failed⟩⟩ := map_error_spec refused
  · exact refl memory
  · exact setPool (PageTable.keeps_insert failed)

/-- A fresh page for which there is no frame, or no frame for its page table. -/
theorem mapFresh (sound : memory.Sound size 0) {error : SysError}
    (refused : memory.mapFresh handle va flags = (.error error, next)) : Intact memory next := by
  simp only [Memory.mapFresh, allocFrame] at refused
  cases allocated : memory.pool.alloc with
  | mk result taken =>
    rw [allocated] at refused
    cases result with
    | error cause =>
      rw [Prod.mk.injEq] at refused
      rw [← refused.2]
      exact setPool (.alloc allocated)
    | ok frame =>
      dsimp only at refused
      split at refused
      · rename_i cause last failed
        rw [Prod.mk.injEq] at refused
        rw [← refused.2]
        -- The frame was free, so nothing refers to it.
        have unused : memory.pool.refs frame = 0 := by
          by_contra used
          exact sound.not_mem_free (Nat.pos_of_ne_zero used) (FramePool.alloc_ok_spec allocated).1
        have kept := map failed
        exact ⟨kept.tables, kept.active_eq, .released unused allocated kept.pool⟩
      · simp at refused

end Intact

end Memory

/-! A forced failure is used up by the next allocation, and nothing but a request forces one. -/

namespace FramePool

/-- After an allocation no failure is forced, whether it was this one that failed or not. -/
theorem failNext_alloc (pool : FramePool) : pool.alloc.2.failNext = false := by
  -- A forced failure is used up, and where none is forced there is none afterwards.
  simp only [alloc]
  split
  · rfl
  · rename_i unforced
    split <;> simpa [modify] using unforced

/-- To free a frame forces no failure. -/
@[simp] theorem failNext_release (pool : FramePool) (frame : FrameNumber) :
    (pool.release frame).failNext = pool.failNext := by
  -- Only the free list changes.
  simp only [release]
  split <;> rfl

/-- A reference more forces no failure. -/
@[simp] theorem failNext_incref (pool : FramePool) (frame : FrameNumber) :
    (pool.incref frame).failNext = pool.failNext :=
  rfl

/-- A reference less forces no failure. -/
@[simp] theorem failNext_decref (pool : FramePool) (frame : FrameNumber) :
    (pool.decref frame).failNext = pool.failNext :=
  (pool.lower frame).failNext_release frame

end FramePool

namespace PageTable

/-- Providing for an address forces no failure. -/
theorem spent_ensureTable (table : PageTable) (pool : FramePool) (va : Address) :
    (table.ensureTable pool va).2.failNext = true → pool.failNext = true := by
  have spent := pool.failNext_alloc
  simp only [ensureTable]
  -- An allocation uses a forced failure up, whether it succeeds or not.
  split
  · exact id
  · split
    · rename_i error next refused
      rw [refused] at spent
      intro forced
      rw [spent] at forced
      simp at forced
    · rename_i frame next allocated
      rw [allocated] at spent
      intro forced
      rw [FramePool.failNext_incref, spent] at forced
      simp at forced

/-- Mapping a page forces no failure. -/
theorem spent_insert (table : PageTable) (pool : FramePool) (va : Address) (frame : FrameNumber)
    (flags : PageFlags) :
    (table.insert pool va frame flags).2.failNext = true → pool.failNext = true := by
  have spent := table.spent_ensureTable pool va
  simp only [insert]
  -- Counting references moves no forced failure.
  split
  · rename_i error next refused
    rwa [refused] at spent
  · rename_i made next ensured
    rw [ensured] at spent
    dsimp only
    split
    · rwa [FramePool.failNext_decref, FramePool.failNext_incref]
    · exact spent

/-- Giving all frames of a table back forces no failure. -/
theorem failNext_release (table : PageTable) (pool : FramePool) :
    (table.release pool).failNext = pool.failNext := by
  rw [release]
  -- Induct on the list of frames, which are given back one after the other.
  induction table.leaves ++ table.ownFrames generalizing pool with
  | nil => rfl
  | cons frame rest ih => rw [List.foldl_cons, ih, FramePool.failNext_decref]

end PageTable

namespace Memory

variable {memory : Memory}

/-- Mapping a frame forces no failure. -/
theorem spent_map (memory : Memory) (handle : SpaceHandle) (va : Address) (frame : FrameNumber)
    (flags : PageFlags) : (memory.map handle va frame flags).2.pool.failNext = true →
      memory.pool.failNext = true := by
  -- The pool is changed by the page table alone, if it gets that far.
  simp only [map]
  split
  · exact id
  · split
    · exact id
    · split
      · exact id
      · rename_i table found
        have spent := table.spent_insert memory.pool va frame flags
        split
        · rename_i error pool refused
          rwa [refused] at spent
        · rename_i made pool done
          rw [done] at spent
          rwa [pool_putTable]

/-- After a fresh page was asked for, no failure is forced. -/
theorem failNext_mapFresh (memory : Memory) (handle : SpaceHandle) (va : Address)
    (flags : PageFlags) : (memory.mapFresh handle va flags).2.pool.failNext = false := by
  have spent := memory.pool.failNext_alloc
  simp only [mapFresh, allocFrame]
  -- The frame is asked for first, and that uses a forced failure up.
  cases allocated : memory.pool.alloc with
  | mk result pool =>
    rw [allocated] at spent
    cases result with
    | error cause => exact spent
    | ok frame =>
      have placed := spent_map { memory with pool } handle va frame flags
      rw [← Bool.not_eq_true] at spent ⊢
      dsimp only at spent placed ⊢
      split
      · rename_i cause next failed
        rw [failed] at placed
        rw [releaseFrame, FramePool.failNext_release]
        exact fun forced => spent (placed forced)
      · rename_i next done
        rw [done] at placed
        exact fun forced => spent (placed forced)

/-- After a space was asked for, no failure is forced. -/
theorem failNext_createSpace (memory : Memory) : memory.createSpace.2.pool.failNext = false := by
  have spent := memory.pool.failNext_alloc
  simp only [createSpace, PageTable.create]
  -- The directory is asked for first, and that uses a forced failure up.
  cases allocated : memory.pool.alloc with
  | mk result pool =>
    rw [allocated] at spent
    cases result with
    | error cause => exact spent
    | ok directory =>
      dsimp only at spent ⊢
      rwa [pool_putTable]

/-- Destroying a space forces no failure. -/
theorem failNext_destroySpace (memory : Memory) (handle : SpaceHandle) :
    (memory.destroySpace handle).2.pool.failNext = memory.pool.failNext := by
  -- Frames are given back one by one, and the place of the space is emptied.
  simp only [destroySpace]
  split
  · rfl
  · rename_i table found
    rw [pool_putTable]
    exact table.failNext_release memory.pool

end Memory

end Exokernel
