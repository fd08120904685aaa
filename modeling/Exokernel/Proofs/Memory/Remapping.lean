import Exokernel.Proofs.Memory.Histories
import Exokernel.Proofs.Memory.References

/-! One page of one space is exchanged, and with it one reference; when there are frames for it. -/

namespace Exokernel

namespace FramePool

variable {pool next : FramePool} {frame : FrameNumber} {error : MapError}

/-- So many frames can be allocated one after the other. -/
def canSupply (pool : FramePool) (count : Nat) : Bool :=
  -- A forced failure concerns nobody who needs no frame.
  count == 0 || (!pool.failNext && count ≤ pool.freeCount)

/-- After an allocation, one frame less can be allocated. -/
theorem canSupply_of_alloc (allocated : pool.alloc = (.ok frame, next)) (count : Nat) :
    pool.canSupply (count + 1) = next.canSupply count := by
  -- Only the branch that takes the head of the free list hands out a frame.
  simp only [alloc] at allocated
  split at allocated
  · simp at allocated
  · rename_i unforced
    split at allocated
    · simp at allocated
    · rename_i first rest listed
      simp only [Prod.mk.injEq, Except.ok.injEq] at allocated
      rw [← allocated.2]
      cases count <;> simp [canSupply, freeCount, listed, unforced, modify]

/-- An allocation fails for want of a frame, so that not even one can be allocated. -/
theorem canSupply_of_alloc_error (refused : pool.alloc = (.error error, next)) (count : Nat) :
    error = .outOfMemory ∧ pool.canSupply (count + 1) = false := by
  -- A failure is forced, or the free list is empty.
  rcases pool.alloc_cases with ⟨exhausted, failed⟩ | ⟨-, frame, after, allocated⟩
  · rw [refused, Except.error.injEq] at failed
    simp only [isExhausted, Bool.or_eq_true, List.isEmpty_iff] at exhausted
    rcases exhausted with forced | empty
    · simp [failed, canSupply, forced]
    · simp [failed, canSupply, freeCount, empty]
  · simp [refused] at allocated

/-- A pool is exhausted if it cannot supply a single frame. -/
theorem isExhausted_eq (pool : FramePool) : pool.isExhausted = !pool.canSupply 1 := by
  -- One frame is missing if a failure is forced or none is listed.
  cases forced : pool.failNext <;> cases listed : pool.free <;>
    simp [isExhausted, canSupply, freeCount, forced, listed]

end FramePool

namespace Memory

variable {memory next : Memory} {handle : SpaceHandle} {va : Address} {frame : FrameNumber}
  {flags : PageFlags} {content : Option PageEntry} {size : Nat}

section Answers

/-- Number of frames that mapping a page takes for its page table. -/
def tablesNeeded (memory : Memory) (handle : SpaceHandle) (va : Address) : Nat :=
  if (memory.tableFrame? handle (tableIndex va)).isSome then 0 else 1

variable (known : (memory.table? handle).isSome = true) (aligned : isAligned va = true)
  (below : va < userTop)
include known aligned below

/-- A page of user memory can be mapped if there is a frame for its page table. -/
theorem map_fst_of_userPage (frame : FrameNumber) (flags : PageFlags) :
    (memory.map handle va frame flags).1 =
      if memory.pool.canSupply (memory.tablesNeeded handle va) then .ok ()
      else .error (.mapping .outOfMemory) := by
  have inside : ¬userTop ≤ va := UInt32.not_le.mpr below
  have exists_ : memory.table? handle ≠ none := Option.isSome_iff_ne_none.mp known
  -- The address and the handle are in order, so that only a frame can be missing.
  rw [map_fst, mapAnswer, if_neg (not_not.mpr aligned), if_neg inside, if_neg exists_, tablesNeeded,
    memory.pool.isExhausted_eq]
  cases memory.tableFrame? handle (tableIndex va) with
  | some taken => simp [FramePool.canSupply]
  | none => cases supply : memory.pool.canSupply 1 <;> simp [supply]

/-- A fresh page can be mapped if there is a frame for it as well. -/
theorem mapFresh_fst (flags : PageFlags) : (memory.mapFresh handle va flags).1 =
    if memory.pool.canSupply (memory.tablesNeeded handle va + 1) then .ok ()
    else .error .outOfMemory := by
  simp only [mapFresh, allocFrame]
  cases allocated : memory.pool.alloc with
  | mk result pool =>
    cases result with
    | error error =>
      obtain ⟨rfl, short⟩ :=
        FramePool.canSupply_of_alloc_error allocated (memory.tablesNeeded handle va)
      rw [short]
      rfl
    | ok frame =>
      -- The page has its frame, and the page table is to be found among the rest.
      have placed : (Memory.map { memory with pool } handle va frame flags).1 =
          if pool.canSupply (memory.tablesNeeded handle va) then .ok ()
          else .error (.mapping .outOfMemory) :=
        map_fst_of_userPage
          (show (({ memory with pool } : Memory).table? handle).isSome = true from known)
          aligned below frame flags
      rw [FramePool.canSupply_of_alloc allocated]
      dsimp only
      cases outcome : Memory.map { memory with pool } handle va frame flags with
      | mk result last =>
        rw [outcome] at placed
        simp only at placed
        subst placed
        cases pool.canSupply (memory.tablesNeeded handle va) <;> rfl

end Answers

/--
A page of a space has another entry, or none.

Among the frames in use, the one that was mapped there has one reference less, the one that is
mapped there now has one more, and all others have as many as before.
-/
structure Remaps (memory next : Memory) (handle : SpaceHandle) (va : Address)
    (content : Option PageEntry) : Prop extends Installs memory next handle va content where
  /-- The references of each frame in use. -/
  refs : ∀ frame, 0 < memory.pool.refs frame →
    next.pool.refs frame +
        (if (memory.entryAt? handle va).map PageEntry.frame = some frame then 1 else 0) =
      memory.pool.refs frame + if content.map PageEntry.frame = some frame then 1 else 0

/-- How often a frame is there where there is at most one. -/
theorem count_toList (found : Option FrameNumber) (frame : FrameNumber) :
    Multiset.count frame (↑found.toList : Multiset FrameNumber) =
      if found = some frame then 1 else 0 := by
  -- There is one frame, or none.
  cases found with
  | none => rfl
  | some other => simp [Multiset.count_singleton, eq_comm]

/-- Leaves and page tables tell how often frames are referenced. -/
theorem Sound.remaps (sound : memory.Sound size 0) (after : next.Sound size 0)
    (installs : Installs memory next handle va content)
    (leaves : next.leaves + memory.frameAt handle va =
      ↑(content.map PageEntry.frame).toList + memory.leaves)
    (own : TakesAtMost memory.pool.free memory.ownFrames next.ownFrames) :
    memory.Remaps next handle va content where
  toInstalls := installs
  refs frame used := by
    -- A frame in use is not the one that a page table has taken, as that was free.
    have tables : next.ownFrames.count frame = memory.ownFrames.count frame := by
      rcases own with same | ⟨taken, free, more⟩
      · rw [same]
      · have other : frame ≠ taken := by
          rintro rfl
          exact sound.not_mem_free used free
        rw [more, Multiset.count_cons_of_ne other]
    have exchanged := congrArg (Multiset.count frame) leaves
    rw [Multiset.count_add, Multiset.count_add, frameAt, count_toList, count_toList] at exchanged
    rw [sound.accounted.balanced.refs_eq, after.accounted.balanced.refs_eq, Multiset.count_add,
      Multiset.count_add, tables]
    omega

/-- A frame that is mapped takes the place of what was mapped there. -/
theorem Sound.remaps_map (sound : memory.Sound size 0) (after : next.Sound size 0)
    (mapped : memory.map handle va frame flags = (.ok (), next)) :
    memory.Remaps next handle va (some { frame, flags := flags ||| .present }) :=
  sound.remaps after (installs_map mapped) (leaves_map mapped) (Memory.ownFrames_map mapped)

/-- A mapping that is removed leaves nothing in its place. -/
theorem Sound.remaps_unmap (sound : memory.Sound size 0)
    (known : (memory.table? handle).isSome = true) (va : Address) :
    memory.Remaps (memory.unmap handle va).2 handle va none :=
  sound.remaps (sound.unmap handle va) (installs_unmap known va)
    ((memory.leaves_unmap handle va).trans (zero_add _).symm)
    (.inl (memory.ownFrames_unmap handle va))

/-- A fresh page of zeros, with the only reference to its frame, takes the place of the old one. -/
theorem Sound.remaps_mapFresh (sound : memory.Sound size 0)
    (mapped : memory.mapFresh handle va flags = (.ok (), next)) :
    ∃ frame ∈ memory.pool.free, next.pool.page frame = Page.zero ∧ next.pool.refs frame = 1 ∧
      memory.Remaps next handle va (some { frame, flags := flags ||| .present }) := by
  have after := sound.mapFresh handle va flags
  rw [mapped] at after
  obtain ⟨frame, free, zero, entries⟩ := mapFresh_ok_spec mapped
  obtain ⟨taken, -, installs⟩ := installs_mapFresh mapped
  have found := (entries va).trans (if_pos rfl)
  -- Both say what the page has now, and so they speak of the same frame.
  obtain rfl : taken = frame := by
    have same := found
    rw [installs.here, if_pos rfl] at same
    exact congrArg PageEntry.frame (Option.some.inj same)
  exact ⟨taken, free, zero, sound.refs_of_mapFresh after mapped found free,
    sound.remaps after installs (leaves_mapFresh mapped found) (ownFrames_mapFresh mapped)⟩

end Memory

end Exokernel
