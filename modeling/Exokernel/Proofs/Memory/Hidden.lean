import Exokernel.Memory.Access
import Exokernel.Proofs.Layout

/-! Memory without the contents of some frames: what is done to it does not depend on them. -/

namespace Exokernel

/-- A frame with zeros for its contents. -/
def Frame.blank (frame : Frame) : Frame :=
  { frame with page := Page.zero }

namespace FramePool

open scoped Classical in

/-- The pool with zeros for the contents of every frame that is not shown. -/
noncomputable def hide (shown : Set FrameNumber) (pool : FramePool) : FramePool :=
  -- Counters and free list stay, so that the same frames are handed out.
  { pool with
    frames := pool.frames.mapIdx fun number frame =>
      if number ∈ shown then frame else frame.blank }

variable {shown : Set FrameNumber} {pool other : FramePool} {frame : FrameNumber}

/-- A frame that is shown is as it was. -/
theorem getElem?_hide_of_mem (visible : frame ∈ shown) (pool : FramePool) :
    (pool.hide shown).frames[frame]? = pool.frames[frame]? := by
  -- Hiding goes from frame to frame, and leaves this one.
  simp only [hide, Array.getElem?_mapIdx, if_pos visible, Option.map_id_fun', id_eq]

/-- A frame that is not shown keeps its count alone. -/
theorem getElem?_hide_of_not_mem (hidden : frame ∉ shown) (pool : FramePool) :
    (pool.hide shown).frames[frame]? = pool.frames[frame]?.map Frame.blank := by
  -- Hiding goes from frame to frame, and blanks this one.
  simp only [hide, Array.getElem?_mapIdx, if_neg hidden]

/-- Pools are the same if they have the same frames and the same free list. -/
theorem ext_frames (frames : ∀ frame : FrameNumber, pool.frames[frame]? = other.frames[frame]?)
    (free : pool.free = other.free) (failNext : pool.failNext = other.failNext) :
    pool = other := by
  -- Frames are compared by their numbers, also those that name none.
  obtain ⟨first, _, _⟩ := pool
  obtain ⟨second, _, _⟩ := other
  have same : first = second := Array.ext_getElem? frames
  subst same free failNext
  rfl

/-- Hiding leaves every count of references alone. -/
@[simp] theorem refs_hide (shown : Set FrameNumber) (pool : FramePool) (frame : FrameNumber) :
    (pool.hide shown).refs frame = pool.refs frame := by
  -- Shown or blanked, a frame is counted as before.
  by_cases visible : frame ∈ shown
  · rw [refs, getElem?_hide_of_mem visible, refs]
  · rw [refs, getElem?_hide_of_not_mem visible, refs]
    cases pool.frames[frame]? <;> rfl

/-- A frame that is shown has the bytes it had. -/
theorem page_hide (visible : frame ∈ shown) (pool : FramePool) :
    (pool.hide shown).page frame = pool.page frame := by
  -- The frame is found as it was.
  rw [page, getElem?_hide_of_mem visible, page]

/-- Hiding more frames than before makes the first time superfluous. -/
theorem hide_hide {fewer : Set FrameNumber} (subset : fewer ⊆ shown) (pool : FramePool) :
    (pool.hide shown).hide fewer = pool.hide fewer := by
  refine ext_frames (fun frame => ?_) rfl rfl
  -- A frame that is shown last was shown all along.
  by_cases kept : frame ∈ fewer
  · rw [getElem?_hide_of_mem kept, getElem?_hide_of_mem (subset kept), getElem?_hide_of_mem kept]
  · rw [getElem?_hide_of_not_mem kept, getElem?_hide_of_not_mem kept]
    by_cases visible : frame ∈ shown
    · rw [getElem?_hide_of_mem visible]
    · rw [getElem?_hide_of_not_mem visible]
      cases pool.frames[frame]? <;> rfl

/-- Frames of zeros can be shown or hidden. -/
theorem hide_union {zeros : Set FrameNumber} (blank : ∀ frame ∈ zeros, pool.page frame = Page.zero)
    (shown : Set FrameNumber) : pool.hide (shown ∪ zeros) = pool.hide shown := by
  refine ext_frames (fun frame => ?_) rfl rfl
  by_cases visible : frame ∈ shown
  · rw [getElem?_hide_of_mem (.inl visible), getElem?_hide_of_mem visible]
  · rw [getElem?_hide_of_not_mem visible]
    by_cases zero : frame ∈ zeros
    · -- What would be blanked is blank already.
      have contents := blank frame zero
      rw [getElem?_hide_of_mem (.inr zero)]
      cases found : pool.frames[frame]? with
      | none => rfl
      | some entry =>
        simp only [page, found] at contents
        rw [Option.map_some, Frame.blank, ← contents]
    · rw [getElem?_hide_of_not_mem fun either => either.elim visible zero]

/-- A frame may change before or after others are hidden. -/
theorem modify_hide {change : Frame → Frame}
    (same : frame ∈ shown ∨ ∀ old, change old.blank = (change old).blank) :
    (pool.hide shown).modify frame change = (pool.modify frame change).hide shown := by
  refine ext_frames (fun other => ?_) rfl rfl
  -- A frame that is hidden is either not the changed one, or changes the same way.
  by_cases visible : other ∈ shown
  · simp only [modify, Array.getElem?_modify, getElem?_hide_of_mem visible]
  · simp only [modify, Array.getElem?_modify, getElem?_hide_of_not_mem visible]
    split
    · rename_i here
      subst here
      cases pool.frames[frame]? with
      | none => rfl
      | some old => exact congrArg some (same.resolve_left visible old)
    · rfl

/-- A reference more is counted alike, whether or not the frame is shown. -/
@[simp] theorem incref_hide (shown : Set FrameNumber) (pool : FramePool) (frame : FrameNumber) :
    (pool.hide shown).incref frame = (pool.incref frame).hide shown :=
  modify_hide (.inr fun _ => rfl)

/-- To free a frame takes only its count, which is never hidden. -/
@[simp] theorem release_hide (shown : Set FrameNumber) (pool : FramePool) (frame : FrameNumber) :
    (pool.hide shown).release frame = (pool.release frame).hide shown := by
  -- Both sides test the same count.
  rw [release, refs_hide, release]
  split <;> rfl

/-- A reference less is counted alike, and the frame is freed on both sides or on neither. -/
@[simp] theorem decref_hide (shown : Set FrameNumber) (pool : FramePool) (frame : FrameNumber) :
    (pool.hide shown).decref frame = (pool.decref frame).hide shown := by
  -- The count is lowered first, and decides about the rest.
  have lowered : (pool.hide shown).lower frame = (pool.lower frame).hide shown :=
    modify_hide (.inr fun _ => rfl)
  rw [decref, lowered, release_hide, decref]

/-- References are dropped alike, however many they are. -/
theorem foldl_decref_hide (shown : Set FrameNumber) (frames : List FrameNumber)
    (pool : FramePool) :
    frames.foldl decref (pool.hide shown) = (frames.foldl decref pool).hide shown := by
  -- Each frame of the list is dropped in the same way.
  induction frames generalizing pool with
  | nil => rfl
  | cons frame rest ih => rw [List.foldl_cons, decref_hide, ih, List.foldl_cons]

/-- A byte is written to a frame that is shown. -/
theorem setByte_hide (visible : frame ∈ shown) (pool : FramePool) (offset : Nat) (byte : UInt8) :
    (pool.hide shown).setByte frame offset byte = (pool.setByte frame offset byte).hide shown :=
  modify_hide (.inl visible)

/-- A byte that is written to a frame that is not shown cannot be seen. -/
theorem hide_setByte (hidden : frame ∉ shown) (pool : FramePool) (offset : Nat) (byte : UInt8) :
    (pool.setByte frame offset byte).hide shown = pool.hide shown := by
  refine ext_frames (fun other => ?_) rfl rfl
  -- A frame that is shown is not the one that is written.
  by_cases visible : other ∈ shown
  · have elsewhere : frame ≠ other := fun here => hidden (here ▸ visible)
    rw [getElem?_hide_of_mem visible, getElem?_hide_of_mem visible, setByte, modify,
      Array.getElem?_modify, if_neg elsewhere]
  · simp only [getElem?_hide_of_not_mem visible, setByte, modify, Array.getElem?_modify]
    split
    · cases pool.frames[other]? <;> rfl
    · rfl

/-- A frame is filled with zeros when it is taken, so that its old contents do not matter. -/
@[simp] theorem alloc_hide (shown : Set FrameNumber) (pool : FramePool) :
    (pool.hide shown).alloc = Prod.map id (hide shown) pool.alloc := by
  have failNext : (pool.hide shown).failNext = pool.failNext := rfl
  have free : (pool.hide shown).free = pool.free := rfl
  rw [alloc, failNext, free, alloc]
  -- Whether there is a free frame does not depend on what the frames hold.
  split
  · rfl
  · split
    · rfl
    · rename_i frame rest _
      have taken : ({ pool with free := rest } : FramePool).hide shown =
          { pool.hide shown with free := rest } := rfl
      refine Prod.ext rfl ?_
      exact taken ▸ modify_hide (.inr fun _ => rfl)

end FramePool

namespace PageTable

variable {shown : Set FrameNumber}

open FramePool (hide)

/-- A new directory takes the same frame, or none. -/
@[simp] theorem create_hide (shown : Set FrameNumber) (pool : FramePool) :
    create (pool.hide shown) = Prod.map id (hide shown) (create pool) := by
  -- Which frame is free has nothing to do with what is shown.
  rw [create, FramePool.alloc_hide, create]
  obtain ⟨result, next⟩ := pool.alloc
  cases result with
  | error error => rfl
  | ok directory => simp only [Prod.map_apply, id_eq, FramePool.incref_hide]

/-- A page table is made alike, or is there on both sides. -/
@[simp] theorem ensureTable_hide (table : PageTable) (shown : Set FrameNumber) (pool : FramePool)
    (va : Address) : table.ensureTable (pool.hide shown) va =
      Prod.map id (hide shown) (table.ensureTable pool va) := by
  -- If there is one, nothing is allocated; otherwise the same frame is.
  simp only [ensureTable, FramePool.alloc_hide]
  split
  · rfl
  · obtain ⟨result, next⟩ := pool.alloc
    cases result with
    | error error => rfl
    | ok frame => simp only [Prod.map_apply, id_eq, FramePool.incref_hide]

/-- A page is mapped alike. -/
@[simp] theorem insert_hide (table : PageTable) (shown : Set FrameNumber) (pool : FramePool)
    (va : Address) (frame : FrameNumber) (flags : PageFlags) :
    table.insert (pool.hide shown) va frame flags =
      Prod.map id (hide shown) (table.insert pool va frame flags) := by
  simp only [insert, ensureTable_hide]
  obtain ⟨result, next⟩ := table.ensureTable pool va
  cases result with
  | error error => rfl
  | ok made =>
    -- The new frame is counted, and then the old one is dropped, if there is one.
    simp only [Prod.map_apply, id_eq, FramePool.incref_hide]
    split <;> simp only [FramePool.decref_hide]

/-- A page is unmapped alike. -/
@[simp] theorem remove_hide (table : PageTable) (shown : Set FrameNumber) (pool : FramePool)
    (va : Address) : table.remove (pool.hide shown) va =
      Prod.map id (hide shown) (table.remove pool va) := by
  -- Only what happens to the count of the old frame concerns the pool.
  unfold remove
  split <;> simp only [Prod.map_apply, id_eq, FramePool.decref_hide]

/-- A space gives back what it holds alike. -/
@[simp] theorem release_hide (table : PageTable) (shown : Set FrameNumber) (pool : FramePool) :
    table.release (pool.hide shown) = (table.release pool).hide shown :=
  FramePool.foldl_decref_hide shown _ pool

end PageTable

namespace Memory

/-- Memory with zeros for the contents of every frame that is not shown. -/
noncomputable def hide (shown : Set FrameNumber) (memory : Memory) : Memory :=
  { memory with pool := memory.pool.hide shown }

/-- Every frame that a space maps is shown. -/
def Shows (memory : Memory) (shown : Set FrameNumber) (handle : SpaceHandle) : Prop :=
  ∀ va entry, memory.entryAt? handle va = some entry → entry.frame ∈ shown

variable {shown : Set FrameNumber} {memory : Memory} {handle : SpaceHandle}

/-- The tables of all spaces stand outside what is hidden. -/
@[simp] theorem table?_hide (shown : Set FrameNumber) (memory : Memory) (handle : SpaceHandle) :
    (memory.hide shown).table? handle = memory.table? handle := rfl

/-- So do their entries. -/
@[simp] theorem entryAt?_hide (shown : Set FrameNumber) (memory : Memory) (handle : SpaceHandle)
    (va : Address) : (memory.hide shown).entryAt? handle va = memory.entryAt? handle va := rfl

/-- A table is put in its place alike. -/
@[simp] theorem putTable_hide (shown : Set FrameNumber) (memory : Memory) (handle : SpaceHandle)
    (table : Option PageTable) :
    (memory.hide shown).putTable handle table = (memory.putTable handle table).hide shown := by
  -- The number of spaces, which decides where it goes, is the same.
  unfold putTable
  split <;> rename_i inside <;> simp only [hide] at inside ⊢
  · rw [if_pos inside]
  · rw [if_neg inside]

/-- A space is made alike, with the same handle. -/
@[simp] theorem createSpace_hide (shown : Set FrameNumber) (memory : Memory) :
    (memory.hide shown).createSpace = Prod.map id (hide shown) memory.createSpace := by
  -- The directory's frame is had on both sides or on neither.
  simp only [createSpace, hide, PageTable.create_hide]
  obtain ⟨result, pool⟩ := PageTable.create memory.pool
  cases result with
  | error error => rfl
  | ok table =>
    exact Prod.ext rfl (putTable_hide shown { memory with pool } memory.vacantHandle (some table))

/-- A space is given up alike. -/
@[simp] theorem destroySpace_hide (shown : Set FrameNumber) (memory : Memory)
    (handle : SpaceHandle) :
    (memory.hide shown).destroySpace handle =
      Prod.map id (hide shown) (memory.destroySpace handle) := by
  -- An unknown handle is refused; a table gives back its frames and leaves its place.
  simp only [destroySpace, table?_hide]
  split
  · rfl
  · rename_i table _
    simp only [hide, PageTable.release_hide]
    exact Prod.ext rfl (putTable_hide shown
      { memory with
        pool := table.release memory.pool
        active := if memory.active = some handle then none else memory.active } handle none)

/-- A frame is mapped at an address alike, and refused for the same reason. -/
@[simp] theorem map_hide (shown : Set FrameNumber) (memory : Memory) (handle : SpaceHandle)
    (va : Address) (frame : FrameNumber) (flags : PageFlags) :
    (memory.hide shown).map handle va frame flags =
      Prod.map id (hide shown) (memory.map handle va frame flags) := by
  simp only [map, table?_hide]
  -- The tests look at addresses and tables, and the table itself takes free frames.
  split
  · rfl
  · split
    · rfl
    · split
      · rfl
      · rename_i table _
        simp only [hide, PageTable.insert_hide]
        obtain ⟨result, pool⟩ := table.insert memory.pool va frame flags
        cases result with
        | error error => rfl
        | ok made =>
          exact Prod.ext rfl (putTable_hide shown { memory with pool } handle (some made))

/-- An address is unmapped alike. -/
@[simp] theorem unmap_hide (shown : Set FrameNumber) (memory : Memory) (handle : SpaceHandle)
    (va : Address) : (memory.hide shown).unmap handle va =
      Prod.map id (hide shown) (memory.unmap handle va) := by
  -- An unknown handle is refused; otherwise the table has one entry less.
  simp only [unmap, table?_hide]
  split
  · rfl
  · rename_i table _
    simp only [hide, PageTable.remove_hide]
    obtain ⟨left, pool⟩ := table.remove memory.pool va
    exact Prod.ext rfl (putTable_hide shown { memory with pool } handle (some left))

/-- A fresh page is mapped alike, and fails at the same step. -/
@[simp] theorem mapFresh_hide (shown : Set FrameNumber) (memory : Memory) (handle : SpaceHandle)
    (va : Address) (flags : PageFlags) : (memory.hide shown).mapFresh handle va flags =
      Prod.map id (hide shown) (memory.mapFresh handle va flags) := by
  have allocated : (memory.hide shown).allocFrame =
      Prod.map id (hide shown) memory.allocFrame := by
    simp only [allocFrame, hide, FramePool.alloc_hide]
    rfl
  rw [mapFresh, allocated, mapFresh]
  obtain ⟨result, taken⟩ := memory.allocFrame
  -- A frame that could not be mapped is given back, hidden or not.
  cases result with
  | error error => rfl
  | ok frame =>
    simp only [Prod.map_apply, id_eq, map_hide]
    obtain ⟨mapped, next⟩ := taken.map handle va frame flags
    cases mapped with
    | error error => simp only [Prod.map_apply, id_eq, releaseFrame, hide, FramePool.release_hide]
    | ok => rfl

/-- Whether a range may be used does not depend on what it contains. -/
@[simp] theorem userCheck_hide (shown : Set FrameNumber) (memory : Memory) (handle : SpaceHandle)
    (va length : Word) (flags : PageFlags) :
    (memory.hide shown).userCheck handle va length flags =
      memory.userCheck handle va length flags := by
  have pages (count : Nat) (start page : Address) (wanted : PageFlags) :
      (memory.hide shown).checkPages handle start wanted count page =
        memory.checkPages handle start wanted count page := by
    -- Induct on the number of pages: each is looked up in the same table.
    induction count generalizing page with
    | zero => rfl
    | succ count ih =>
      simp only [checkPages, ih]
      rfl
  simp only [userCheck, pages]

/-- The bytes of a space that is shown are read as they are. -/
theorem copyIn_hide (shows : memory.Shows shown handle) (va : Address) (length : Nat) :
    (memory.hide shown).copyIn handle va length = memory.copyIn handle va length := by
  -- A byte that is mapped lies in a frame that is shown.
  have bytes : (memory.hide shown).byteAt handle = memory.byteAt handle := by
    funext place
    simp only [byteAt, entryAt?_hide]
    split
    · rename_i entry found
      rw [hide, FramePool.byteAt, FramePool.page_hide (shows place entry found),
        FramePool.byteAt]
    · rfl
  simp only [copyIn, bytes]
  rfl

/-- Bytes are written to a space that is shown. -/
theorem copyOut_hide (shows : memory.Shows shown handle) (va : Address) (bytes : List UInt8) :
    (memory.hide shown).copyOut handle va bytes =
      Prod.map id (hide shown) (memory.copyOut handle va bytes) := by
  -- Induct on the bytes: each goes to a frame that is shown, and changes no mapping.
  fun_induction copyOut memory handle va bytes with
  | case1 => rfl
  | case2 memory va byte rest missing => simp only [copyOut, entryAt?_hide, missing]; rfl
  | case3 memory va byte rest entry found pool ih =>
    have written : { memory.hide shown with
        pool := (memory.hide shown).pool.setByte entry.frame (va % pageSize).toNat byte } =
        ({ memory with pool } : Memory).hide shown := by
      rw [hide, hide, FramePool.setByte_hide (shows va entry found)]
    simp only [copyOut, entryAt?_hide, found, written]
    exact ih shows

/-- Bytes that are written to frames that are not shown cannot be seen. -/
theorem hide_copyOut {va : Address} {bytes : List UInt8}
    (hidden : ∀ offset < bytes.length, ∀ entry,
      memory.entryAt? handle (va + UInt32.ofNat offset) = some entry → entry.frame ∉ shown) :
    (memory.copyOut handle va bytes).2.hide shown = memory.hide shown := by
  -- Induct on the bytes: the first one cannot be seen, and neither can those after it.
  fun_induction copyOut memory handle va bytes with
  | case1 => rfl
  | case2 => rfl
  | case3 memory va byte rest entry found pool ih =>
    have first : entry.frame ∉ shown := hidden 0 (by simp) entry (by simpa using found)
    have same : ({ memory with pool } : Memory).hide shown = memory.hide shown := by
      simp only [hide, pool, FramePool.hide_setByte first]
    rw [ih, same]
    intro offset inside entry later
    rw [← offset_succ] at later
    exact hidden (offset + 1) (by simpa using inside) entry later

end Memory

end Exokernel
