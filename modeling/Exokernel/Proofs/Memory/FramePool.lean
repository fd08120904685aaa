import Exokernel.Memory.FramePool
import Mathlib

/-! The frame pool keeps its counters and its free list in step with the references that exist. -/

namespace Exokernel.FramePool

/--
A pool in which the first `size` frames are handed out. Its counters say how often each frame is
referenced, and each of these frames that has no references is in one place: once on the free list,
or once in the hands of whoever is about to reference it.
-/
structure Balanced (pool : FramePool) (size : Nat) (references held : Multiset FrameNumber) :
    Prop where
  /-- The pool has all frames that are handed out. -/
  size_le : size ≤ pool.frames.size
  /-- Only such frames are referenced. -/
  lt_size : ∀ {frame}, frame ∈ references → frame < size
  /-- The counters are right. -/
  refs_eq : ∀ frame, pool.refs frame = references.count frame
  /-- Unreferenced frames are free or held, once, and referenced ones are neither. -/
  free_eq : ∀ frame, pool.free.count frame + held.count frame =
    if frame < size ∧ references.count frame = 0 then 1 else 0

/-- To change a frame leaves as many frames. -/
@[simp] theorem size_modify (pool : FramePool) (frame : FrameNumber) (change : Frame → Frame) :
    (pool.modify frame change).frames.size = pool.frames.size := by
  -- The array is changed in place.
  simp [modify]

/-- To change a frame leaves the free list alone. -/
@[simp] theorem free_modify (pool : FramePool) (frame : FrameNumber) (change : Frame → Frame) :
    (pool.modify frame change).free = pool.free := rfl

/-- Changing one frame leaves the counters of the others alone. -/
theorem refs_modify_other (pool : FramePool) {frame other : FrameNumber}
    (change : Frame → Frame) (different : other ≠ frame) :
    (pool.modify frame change).refs other = pool.refs other := by
  -- Counters are looked up by number, and only this number has changed.
  simp [refs, modify, Array.getElem?_modify, Ne.symm different]

/-- A change that keeps the counter of its frame keeps all counters. -/
theorem refs_modify_of_refs_eq (pool : FramePool) (frame other : FrameNumber)
    {change : Frame → Frame} (kept : ∀ old, (change old).refs = old.refs) :
    (pool.modify frame change).refs other = pool.refs other := by
  -- The changed frame keeps its counter by assumption, and all others are not touched.
  by_cases same : other = frame
  · subst same
    cases found : pool.frames[other]? <;> simp [refs, modify, Array.getElem?_modify, found, kept]
  · exact pool.refs_modify_other change same

/-- A frame of the pool reads back the counter that a change gives it. -/
theorem refs_modify_same (pool : FramePool) {frame : FrameNumber} {change : Frame → Frame}
    {count : Word} (inside : frame < pool.frames.size)
    (changed : ∀ old : Frame, old.refs.toNat = pool.refs frame → (change old).refs = count) :
    (pool.modify frame change).refs frame = count.toNat := by
  -- The change sees a frame whose counter is the one that the pool reports.
  have found : pool.frames[frame]? = some pool.frames[frame] := Array.getElem?_eq_getElem inside
  have current : pool.frames[frame].refs.toNat = pool.refs frame := by simp [refs, found]
  simp [refs, modify, Array.getElem?_modify, found, changed _ current]

/-- A counter is a word. -/
theorem refs_lt (pool : FramePool) (frame : FrameNumber) : pool.refs frame < addressCount := by
  -- A frame that is not there counts as one without references.
  unfold refs
  split
  · rename_i found _
    exact found.refs.toNat_lt
  · decide

/-- The free list of a new pool has no frame that the pool does not have. -/
theorem listed_le (count : Nat) : listed count ≤ count := by
  -- A remainder is no more than the number itself.
  rw [listed, UInt32.toNat_ofNat']
  exact Nat.mod_le _ _

/-- In a new pool every frame that is handed out is free, and none is referenced. -/
theorem balanced_ofCount (count : Nat) : (ofCount count).Balanced (listed count) 0 0 where
  size_le := by simpa [ofCount] using listed_le count
  lt_size member := absurd member (Multiset.notMem_zero _)
  refs_eq frame := by
    by_cases inside : frame < count <;> simp [refs, ofCount, inside]
  free_eq frame := by
    -- The free list counts up through these numbers once.
    by_cases inside : frame < listed count
    · simp [ofCount, inside, List.count_eq_one_of_mem List.nodup_range (List.mem_range.mpr inside)]
    · simp [ofCount, inside, List.count_eq_zero_of_not_mem (List.mem_range.not.mpr inside)]

namespace Balanced

variable {pool : FramePool} {size : Nat} {references held : Multiset FrameNumber}
  {frame : FrameNumber}

/-- A held frame is one that is handed out, and nothing refers to it. -/
theorem held_unreferenced (balanced : pool.Balanced size references (frame ::ₘ held)) :
    frame < size ∧ references.count frame = 0 := by
  -- The frame is counted among the held ones, so it is an unreferenced one.
  by_contra other
  have counted := balanced.free_eq frame
  rw [if_neg other, Multiset.count_cons_self] at counted
  omega

/-- With no frame in hand, the free list has each unreferenced frame once and no other. -/
theorem count_free (balanced : pool.Balanced size references 0) (frame : FrameNumber) :
    pool.free.count frame = if frame < size ∧ pool.refs frame = 0 then 1 else 0 := by
  -- With nothing in hand, the balance speaks of the list alone.
  have free := balanced.free_eq frame
  rwa [Multiset.count_zero, Nat.add_zero, ← balanced.refs_eq] at free

/-- Bytes can be written without touching the accounts. -/
theorem modify_page (balanced : pool.Balanced size references held) (frame : FrameNumber)
    {change : Frame → Frame} (kept : ∀ old, (change old).refs = old.refs) :
    (pool.modify frame change).Balanced size references held where
  size_le := by rw [size_modify]; exact balanced.size_le
  lt_size := balanced.lt_size
  refs_eq other := by
    -- A counter that is kept is still the number of references.
    rw [refs_modify_of_refs_eq pool frame other kept]
    exact balanced.refs_eq other
  free_eq := balanced.free_eq

/-- Being about to fail the next allocation changes no account. -/
theorem setFailNext (balanced : pool.Balanced size references held) (fails : Bool) :
    ({ pool with failNext := fails } : FramePool).Balanced size references held :=
  ⟨balanced.size_le, balanced.lt_size, balanced.refs_eq, balanced.free_eq⟩

/-- An allocated frame moves from the free list into the caller's hands. -/
theorem alloc_ok (balanced : pool.Balanced size references held) {next : FramePool}
    (allocated : pool.alloc = (.ok frame, next)) :
    next.Balanced size references (frame ::ₘ held) := by
  -- Only the branch that takes the head of the free list hands out a frame.
  simp only [alloc] at allocated
  split at allocated
  · simp at allocated
  · split at allocated
    · simp at allocated
    · rename_i first rest freeList
      simp only [Prod.mk.injEq, Except.ok.injEq] at allocated
      obtain ⟨rfl, rfl⟩ := allocated
      have shorter : ({ pool with free := rest } : FramePool).Balanced size references
          (first ::ₘ held) := by
        -- The head of the list is counted among the held frames instead.
        refine ⟨balanced.size_le, balanced.lt_size, balanced.refs_eq,
          fun other => (balanced.free_eq other ▸ ?_)⟩
        rw [freeList]
        by_cases same : other = first
        · subst same
          simp only [Multiset.count_cons_self, List.count_cons_self]
          omega
        · simp [Multiset.count_cons_of_ne same, List.count_cons_of_ne (Ne.symm same)]
      exact shorter.modify_page first fun _ => rfl

/-- A failed allocation leaves the accounts as they were. -/
theorem alloc_error (balanced : pool.Balanced size references held) {error : MapError}
    {next : FramePool} (refused : pool.alloc = (.error error, next)) :
    next.Balanced size references held := by
  -- At most the forced failure is used up.
  simp only [alloc] at refused
  split at refused
  · simp only [Prod.mk.injEq] at refused
    exact refused.2 ▸ balanced.setFailNext false
  · split at refused
    · simp only [Prod.mk.injEq] at refused
      exact refused.2 ▸ balanced
    · simp at refused

/-- A counter that has room counts one reference more. -/
theorem refs_incref (balanced : pool.Balanced size references held) (inside : frame < size)
    (room : references.count frame + 1 < addressCount) (other : FrameNumber) :
    (pool.incref frame).refs other = (frame ::ₘ references).count other := by
  -- The word does not wrap, so it counts like a number.
  by_cases same : other = frame
  · subst same
    have counted := balanced.refs_eq other
    have raised (old : Frame) (current : old.refs.toNat = pool.refs other) :
        old.refs + 1 = UInt32.ofNat (references.count other + 1) := by
      apply UInt32.toNat_inj.mp
      simp [current, counted]
    rw [incref, pool.refs_modify_same (inside.trans_le balanced.size_le) raised,
      Multiset.count_cons_self, UInt32.toNat_ofNat']
    exact Nat.mod_eq_of_lt room
  · rw [incref, refs_modify_other _ _ same, balanced.refs_eq, Multiset.count_cons_of_ne same]

/-- The first reference to a held frame takes it out of the caller's hands. -/
theorem incref_held (balanced : pool.Balanced size references (frame ::ₘ held)) :
    (pool.incref frame).Balanced size (frame ::ₘ references) held := by
  -- The counters are settled by the count above, so only the places of the frames are left.
  obtain ⟨inside, unreferenced⟩ := balanced.held_unreferenced
  refine ⟨by rw [incref, size_modify]; exact balanced.size_le, fun member => ?_,
    balanced.refs_incref inside (by simp [unreferenced]), fun other => ?_⟩
  · rcases Multiset.mem_cons.mp member with rfl | old
    · exact inside
    · exact balanced.lt_size old
  have counted := balanced.free_eq other
  by_cases same : other = frame
  · -- The frame was held once, and is now neither free nor held.
    subst same
    rw [if_pos ⟨inside, unreferenced⟩, Multiset.count_cons_self] at counted
    rw [if_neg (by simp), incref, free_modify]
    omega
  · simpa [incref, Multiset.count_cons_of_ne same] using counted

/-- One more reference to a frame in use changes nothing about which frames are free. -/
theorem incref_referenced (balanced : pool.Balanced size references held)
    (member : frame ∈ references) (room : references.count frame + 1 < addressCount) :
    (pool.incref frame).Balanced size (frame ::ₘ references) held := by
  -- The counters are settled by the count above, so only the places of the frames are left.
  refine ⟨by rw [incref, size_modify]; exact balanced.size_le, fun other => ?_,
    balanced.refs_incref (balanced.lt_size member) room, fun other => ?_⟩
  · rcases Multiset.mem_cons.mp other with rfl | old
    · exact balanced.lt_size member
    · exact balanced.lt_size old
  have counted := balanced.free_eq other
  by_cases same : other = frame
  · -- A frame that is referenced is not free before or after.
    subst same
    have used := Multiset.count_ne_zero.mpr member
    simpa [incref, used] using counted
  · simpa [incref, Multiset.count_cons_of_ne same] using counted

/-- Giving back a held frame puts it on the free list. -/
theorem release (balanced : pool.Balanced size references (frame ::ₘ held)) :
    (pool.release frame).Balanced size references held := by
  -- A held frame has a zero counter, so giving it back is not refused.
  have idle : pool.refs frame = 0 :=
    (balanced.refs_eq frame).trans balanced.held_unreferenced.2
  rw [FramePool.release, if_pos idle]
  refine ⟨balanced.size_le, balanced.lt_size, balanced.refs_eq,
    fun other => (balanced.free_eq other ▸ ?_)⟩
  by_cases same : other = frame
  · subst same
    simp only [Multiset.count_cons_self, List.count_cons_self]
    omega
  · simp [Multiset.count_cons_of_ne same, List.count_cons_of_ne (Ne.symm same)]

/-- Lowering a counter takes one reference away. -/
theorem refs_lower (balanced : pool.Balanced size (frame ::ₘ references) held)
    (other : FrameNumber) : (pool.lower frame).refs other = references.count other := by
  -- Only the counter of the frame itself moves.
  by_cases same : other = frame
  · subst same
    have counted := balanced.refs_eq other
    rw [Multiset.count_cons_self] at counted
    have small : pool.refs other < 4294967296 := pool.refs_lt other
    have inside := balanced.lt_size (Multiset.mem_cons_self other references)
    have lowered (old : Frame) (current : old.refs.toNat = pool.refs other) :
        (if old.refs = 0 then 0 else old.refs - 1) = UInt32.ofNat (references.count other) := by
      -- The counter is at least one, so lowering it is subtraction.
      have atLeast : (1 : Word) ≤ old.refs := by
        rw [UInt32.le_iff_toNat_le, current, counted]
        simp
      have positive : old.refs ≠ 0 := by
        intro zero
        simp [zero] at atLeast
      rw [if_neg positive]
      apply UInt32.toNat_inj.mp
      rw [UInt32.toNat_sub_of_le _ _ atLeast, current, counted, UInt32.toNat_ofNat',
        Nat.mod_eq_of_lt (by omega)]
      simp
    rw [lower, pool.refs_modify_same (inside.trans_le balanced.size_le) lowered,
      UInt32.toNat_ofNat', Nat.mod_eq_of_lt (by omega)]
  · rw [lower, refs_modify_other _ _ same, balanced.refs_eq, Multiset.count_cons_of_ne same]

/-- Lowering the counter of the last reference leaves the frame in the caller's hands. -/
theorem lower_last (balanced : pool.Balanced size (frame ::ₘ references) held)
    (last : frame ∉ references) :
    (pool.lower frame).Balanced size references (frame ::ₘ held) := by
  -- The counters are settled by the count above, so only the places of the frames are left.
  refine ⟨by rw [lower, size_modify]; exact balanced.size_le,
    fun member => balanced.lt_size (Multiset.mem_cons_of_mem member), balanced.refs_lower,
    fun other => ?_⟩
  have counted := balanced.free_eq other
  rw [lower, free_modify]
  by_cases same : other = frame
  · -- The frame was in use, so it was neither free nor held.
    subst same
    have inside := balanced.lt_size (Multiset.mem_cons_self other references)
    rw [if_neg (by simp)] at counted
    rw [if_pos ⟨inside, Multiset.count_eq_zero.mpr last⟩, Multiset.count_cons_self]
    omega
  · rwa [Multiset.count_cons_of_ne same] at counted ⊢

/-- Lowering the counter of a frame that stays in use frees nothing. -/
theorem lower_shared (balanced : pool.Balanced size (frame ::ₘ references) held)
    (shared : frame ∈ references) : (pool.lower frame).Balanced size references held := by
  -- With references left, the frame is neither free nor held, before and after.
  refine ⟨by rw [lower, size_modify]; exact balanced.size_le,
    fun member => balanced.lt_size (Multiset.mem_cons_of_mem member), balanced.refs_lower,
    fun other => ?_⟩
  have counted := balanced.free_eq other
  rw [lower, free_modify]
  by_cases same : other = frame
  · subst same
    rw [if_neg (by simp)] at counted
    rw [if_neg fun idle => Multiset.count_ne_zero.mpr shared idle.2]
    exact counted
  · rwa [Multiset.count_cons_of_ne same] at counted

/-- Dropping one reference frees the frame exactly when it was the last one. -/
theorem decref (balanced : pool.Balanced size (frame ::ₘ references) held) :
    (pool.decref frame).Balanced size references held := by
  -- The counter that is read after lowering says whether a reference is left.
  by_cases shared : frame ∈ references
  · have counted : (pool.lower frame).refs frame ≠ 0 := by
      rw [balanced.refs_lower]
      exact Multiset.count_ne_zero.mpr shared
    rw [FramePool.decref, FramePool.release, if_neg counted]
    exact balanced.lower_shared shared
  · exact (balanced.lower_last shared).release

/-- Dropping a list of references one after the other settles all of them. -/
theorem foldl_decref {frames : List FrameNumber}
    (balanced : pool.Balanced size (↑frames + references) held) :
    (frames.foldl FramePool.decref pool).Balanced size references held := by
  -- Induct on the list: one reference goes, and the rest of the list is still accounted for.
  induction frames generalizing pool with
  | nil => simpa using balanced
  | cons frame rest ih =>
    refine ih (decref ?_)
    simpa [← Multiset.cons_coe, Multiset.cons_add] using balanced

end Balanced

/--
The two kinds of references apart: frames that page tables are kept in, and frames that pages are
mapped to. The first kind is referenced once and mapped nowhere.
-/
structure Accounted (pool : FramePool) (size : Nat) (own leaves held : Multiset FrameNumber) :
    Prop where
  /-- Counters and free list agree with all references. -/
  balanced : pool.Balanced size (own + leaves) held
  /-- No two page tables or directories share a frame. -/
  own_nodup : own.Nodup
  /-- No page maps a frame that a page table is kept in. -/
  own_disjoint : Disjoint own leaves

namespace Accounted

variable {pool : FramePool} {size : Nat} {own leaves held : Multiset FrameNumber}
  {frame : FrameNumber}

/-- A frame in hand is neither mapped nor part of a page table. -/
theorem held_absent (accounted : pool.Accounted size own leaves (frame ::ₘ held)) :
    frame ∉ own ∧ frame ∉ leaves := by
  -- The two kinds of references add up to none.
  have unreferenced := accounted.balanced.held_unreferenced.2
  rw [Multiset.count_eq_zero, Multiset.mem_add, not_or] at unreferenced
  exact unreferenced

/-- An allocated frame is in the caller's hands. -/
theorem alloc_ok (accounted : pool.Accounted size own leaves held) {next : FramePool}
    (allocated : pool.alloc = (.ok frame, next)) :
    next.Accounted size own leaves (frame ::ₘ held) :=
  ⟨accounted.balanced.alloc_ok allocated, accounted.own_nodup, accounted.own_disjoint⟩

/-- An allocation that fails leaves the accounts as they were. -/
theorem alloc_error (accounted : pool.Accounted size own leaves held) {error : MapError}
    {next : FramePool} (refused : pool.alloc = (.error error, next)) :
    next.Accounted size own leaves held :=
  ⟨accounted.balanced.alloc_error refused, accounted.own_nodup, accounted.own_disjoint⟩

/-- A frame in hand that is freed is in hand no more. -/
theorem release (accounted : pool.Accounted size own leaves (frame ::ₘ held)) :
    (pool.release frame).Accounted size own leaves held :=
  ⟨accounted.balanced.release, accounted.own_nodup, accounted.own_disjoint⟩

/-- Bytes can be written without touching the accounts of spaces. -/
theorem modify_page (accounted : pool.Accounted size own leaves held) (frame : FrameNumber)
    {change : Frame → Frame} (kept : ∀ old, (change old).refs = old.refs) :
    (pool.modify frame change).Accounted size own leaves held :=
  ⟨accounted.balanced.modify_page frame kept, accounted.own_nodup, accounted.own_disjoint⟩

/-- A held frame can become part of a page table. -/
theorem own_held (accounted : pool.Accounted size own leaves (frame ::ₘ held)) :
    (pool.incref frame).Accounted size (frame ::ₘ own) leaves held := by
  -- The new frame is unused, so it is in neither kind of references.
  obtain ⟨notOwn, notLeaf⟩ := accounted.held_absent
  refine ⟨?_, Multiset.nodup_cons.mpr ⟨notOwn, accounted.own_nodup⟩, ?_⟩
  · rw [Multiset.cons_add]
    exact accounted.balanced.incref_held
  · exact Multiset.disjoint_cons_left.mpr ⟨notLeaf, accounted.own_disjoint⟩

/-- A held frame can be mapped. -/
theorem map_held (accounted : pool.Accounted size own leaves (frame ::ₘ held)) :
    (pool.incref frame).Accounted size own (frame ::ₘ leaves) held := by
  -- The new frame is unused, so it is no page table.
  obtain ⟨notOwn, notLeaf⟩ := accounted.held_absent
  refine ⟨?_, accounted.own_nodup, ?_⟩
  · rw [Multiset.add_cons]
    exact accounted.balanced.incref_held
  · exact Multiset.disjoint_cons_right.mpr ⟨notOwn, accounted.own_disjoint⟩

/-- A frame that is mapped somewhere can be mapped once more. -/
theorem map_shared (accounted : pool.Accounted size own leaves held) (member : frame ∈ leaves)
    (room : leaves.card + 1 < addressCount) :
    (pool.incref frame).Accounted size own (frame ::ₘ leaves) held := by
  -- A mapped frame is no page table, so all its references are mappings, and those have room.
  have notOwn : frame ∉ own := fun other =>
    Multiset.disjoint_left.mp accounted.own_disjoint other member
  refine ⟨?_, accounted.own_nodup, ?_⟩
  · rw [Multiset.add_cons]
    refine accounted.balanced.incref_referenced (Multiset.mem_add.mpr (.inr member)) ?_
    rw [Multiset.count_add, Multiset.count_eq_zero.mpr notOwn]
    have bounded := Multiset.count_le_card frame leaves
    omega
  · exact Multiset.disjoint_cons_right.mpr ⟨notOwn, accounted.own_disjoint⟩

/--
A frame may be mapped when it is in hand, and is held no longer then, or when it is mapped already
and its counter has room.
-/
def Mappable (leaves : Multiset FrameNumber) (frame : FrameNumber)
    (held rest : Multiset FrameNumber) : Prop :=
  held = frame ::ₘ rest ∨ held = rest ∧ frame ∈ leaves ∧ leaves.card + 1 < addressCount

/-- Counting a mapping of a frame that may be mapped. -/
theorem map {rest : Multiset FrameNumber} (accounted : pool.Accounted size own leaves held)
    (mappable : Mappable leaves frame held rest) :
    (pool.incref frame).Accounted size own (frame ::ₘ leaves) rest := by
  -- The frame comes out of the caller's hands or stays where it is mapped.
  rcases mappable with rfl | ⟨rfl, member, room⟩
  · exact accounted.map_held
  · exact accounted.map_shared member room

/-- A mapping can be dropped. -/
theorem unmap (accounted : pool.Accounted size own (frame ::ₘ leaves) held) :
    (pool.decref frame).Accounted size own leaves held := by
  -- The mapping is one of all references, and dropping it cannot make a page table a mapped page.
  have balanced := accounted.balanced
  rw [Multiset.add_cons] at balanced
  exact ⟨balanced.decref, accounted.own_nodup,
    (Multiset.disjoint_cons_right.mp accounted.own_disjoint).2⟩

/-- All that a page table refers to can be dropped at once. -/
theorem foldl_decref {tables pages : List FrameNumber}
    (accounted : pool.Accounted size (↑tables + own) (↑pages + leaves) held) :
    ((pages ++ tables).foldl FramePool.decref pool).Accounted size own leaves held := by
  -- Both kinds of references are dropped in one pass, and what is left stays separate.
  refine ⟨Balanced.foldl_decref ?_, ?_, ?_⟩
  · have balanced := accounted.balanced
    rw [← Multiset.coe_add]
    convert balanced using 1
    abel
  · exact (Multiset.nodup_add.mp accounted.own_nodup).2.1
  · exact (Multiset.disjoint_add_right.mp
      (Multiset.disjoint_add_left.mp accounted.own_disjoint).2).2

end Accounted

end Exokernel.FramePool
