import Exokernel.Proofs.Memory.References

/-! A space that goes gives back what it held: its own frames, and those that it alone maps. -/

namespace Exokernel

namespace PageTable

variable {table : PageTable} {frame : FrameNumber}

/-- A frame is one of the leaves if some page is mapped to it. -/
theorem Sound.mem_leaves_iff (sound : table.Sound) : frame ∈ table.leaves ↔
    ∃ va entry, table.entryAt? va = some entry ∧ entry.frame = frame := by
  constructor
  · intro member
    obtain ⟨entry, stored, rfl⟩ := List.mem_map.mp member
    obtain ⟨page, found⟩ := (table.entries.mem_values_iff entry).mp stored
    -- The number of a user page is small enough to have an address.
    have below := sound.below page entry found
    have small : page.toNat < 1048576 := below.trans_le (by decide)
    exact ⟨page * pageSize, entry, by rw [entryAt?, pageNumber_mul small, found], rfl⟩
  · rintro ⟨va, entry, found, rfl⟩
    exact mem_leaves found

/-- A frame is as often among the leaves as pages are mapped to it. -/
theorem count_leaves (table : PageTable) (frame : FrameNumber) :
    table.leaves.count frame = table.mappings.countP fun mapping => mapping.2.frame == frame := by
  -- Leaves and mappings are read off the same list of entries.
  rw [leaves, mappings, WordMap.values, List.map_map, List.count_eq_countP, List.countP_map,
    List.countP_map]
  rfl

end PageTable

namespace Memory

variable {memory next : Memory} {handle : SpaceHandle} {table : PageTable} {frame : FrameNumber}
  {size : Nat}

/-- Number of pages of a space that are mapped to a frame. -/
def mappingsTo (memory : Memory) (handle : SpaceHandle) (frame : FrameNumber) : Nat :=
  (memory.mappings handle).countP fun mapping => mapping.2.frame == frame

/-- A frame is mapped, and by pages of one space only. -/
def MappedOnlyIn (memory : Memory) (handle : SpaceHandle) (frame : FrameNumber) : Prop :=
  (∃ va entry, memory.entryAt? handle va = some entry ∧ entry.frame = frame) ∧
    ∀ other va entry, memory.entryAt? other va = some entry → entry.frame = frame → other = handle

/-- Everything that a space held was taken back, and nothing else has changed. -/
structure Reclaims (memory next : Memory) (handle : SpaceHandle) (table : PageTable) : Prop where
  /-- The space is gone, and all others map what they mapped. -/
  tables : ∀ other, next.table? other = if other = handle then none else memory.table? other
  /-- The frames of its directory and its page tables had one reference, and have none now. -/
  own : ∀ frame ∈ table.ownFrames, memory.pool.refs frame = 1 ∧ next.pool.refs frame = 0
  /-- Every other frame loses one reference for each page of the space that was mapped to it. -/
  refs : ∀ frame, frame ∉ table.ownFrames →
    next.pool.refs frame + memory.mappingsTo handle frame = memory.pool.refs frame
  /-- Free are now also the space's own frames, and the frames that it alone had mapped. -/
  free : ∀ frame, frame ∈ next.pool.free ↔
    frame ∈ memory.pool.free ∨ frame ∈ table.ownFrames ∨ memory.MappedOnlyIn handle frame
  /-- They are one for the directory, the page tables, and each mapped frame once. -/
  freeCount : next.freeCount = memory.freeCount + 1 + table.tables.size +
    {frame | memory.MappedOnlyIn handle frame}.ncard
  /-- No frame has other bytes than before. -/
  page_eq : ∀ frame, next.pool.page frame = memory.pool.page frame

/-- What the spaces add up to is the share of the one that goes and what is left. -/
theorem total_destroySpace {M : Type} [AddCommMonoid M] (found : memory.table? handle = some table)
    (measure : PageTable → M) :
    memory.total measure = measure table + (memory.destroySpace handle).2.total measure := by
  -- The place of the space is emptied, and the others are added up as before.
  have left : (memory.destroySpace handle).2.total measure =
      (memory.putTable handle none).total measure := by
    simp only [destroySpace, found]
    exact total_congr _ _ (spaces_putTable memory handle none _ _)
  rw [left, memory.total_eq_add measure (Nat.le_of_lt (index_lt_of_table? found)), found]
  rfl

namespace Sound

/-- A frame is mapped if some page of some space is mapped to it. -/
theorem mem_leaves_iff (sound : memory.Sound size 0) : frame ∈ memory.leaves ↔
    ∃ handle va entry, memory.entryAt? handle va = some entry ∧ entry.frame = frame := by
  constructor
  · intro member
    rw [leaves, total, Multiset.mem_sum] at member
    obtain ⟨index, -, among⟩ := member
    -- The frame is counted in the table of some space, so that it stands in an entry there.
    cases found : memory.table? ⟨index⟩ with
    | none => simp [found] at among
    | some table =>
      rw [found] at among
      obtain ⟨va, entry, mapped, same⟩ :=
        (sound.tables _ table found).mem_leaves_iff.mp (Multiset.mem_coe.mp among)
      exact ⟨⟨index⟩, va, entry, by rw [entryAt?, found, Option.bind_some, mapped], same⟩
  · rintro ⟨handle, va, entry, found, rfl⟩
    exact mem_leaves found

/-- A frame is free if it is one of the memory's, and nothing refers to it. -/
theorem mem_free_iff (sound : memory.Sound size 0) :
    frame ∈ memory.pool.free ↔ frame < size ∧ memory.pool.refs frame = 0 := by
  -- The free list has each of these frames once.
  rw [← List.count_pos_iff, sound.accounted.balanced.count_free]
  split <;> simp_all

/-- No frame is on the free list twice. -/
theorem nodup_free (sound : memory.Sound size 0) : memory.pool.free.Nodup :=
  List.nodup_iff_count_le_one.mpr fun frame => by
    -- Each is there once at most.
    rw [sound.accounted.balanced.count_free]
    split <;> omega

/-- Only frames that the others map as well are still mapped. -/
theorem mem_leaves_destroySpace (sound : memory.Sound size 0) (handle : SpaceHandle) :
    frame ∈ (memory.destroySpace handle).2.leaves ↔
    ∃ other va entry, other ≠ handle ∧ memory.entryAt? other va = some entry ∧
      entry.frame = frame := by
  rw [(sound.destroySpace handle).mem_leaves_iff]
  simp only [entryAt?, destroySpace_spec]
  -- What is mapped afterwards is what the other spaces had mapped before.
  constructor
  · rintro ⟨other, va, entry, mapped, same⟩
    by_cases gone : other = handle
    · simp [gone] at mapped
    · rw [if_neg gone] at mapped
      exact ⟨other, va, entry, gone, mapped, same⟩
  · rintro ⟨other, va, entry, apart, mapped, same⟩
    exact ⟨other, va, entry, by rw [if_neg apart, mapped], same⟩

variable (sound : memory.Sound size 0) (found : memory.table? handle = some table)
include sound found

/-- The frames that a space alone maps are those that nobody maps without it. -/
theorem mappedOnlyIn_iff : memory.MappedOnlyIn handle frame ↔
    frame ∈ table.leaves ∧ frame ∉ (memory.destroySpace handle).2.leaves := by
  -- That others do not map a frame is seen once the space is gone.
  rw [sound.mem_leaves_destroySpace handle, (sound.tables handle table found).mem_leaves_iff]
  simp only [MappedOnlyIn, entryAt?, found, Option.bind_some]
  refine and_congr_right fun _ => ⟨?_, ?_⟩
  · rintro alone ⟨other, va, entry, apart, mapped, same⟩
    exact apart (alone other va entry mapped same)
  · intro nobody other va entry mapped same
    by_contra apart
    exact nobody ⟨other, va, entry, apart, mapped, same⟩

/-- Of all references to a frame, those of the space that goes are gone. -/
theorem refs_destroySpace (frame : FrameNumber) : memory.pool.refs frame =
    (memory.destroySpace handle).2.pool.refs frame + table.ownFrames.count frame +
      table.leaves.count frame := by
  -- Counters agree with the tables before and after, and the tables differ by this one.
  rw [sound.accounted.balanced.refs_eq, (sound.destroySpace handle).accounted.balanced.refs_eq,
    ownFrames, leaves, total_destroySpace found, total_destroySpace found, ← ownFrames, ← leaves]
  simp only [Multiset.count_add, Multiset.coe_count]
  omega

/-- A space's own frames are no one else's, and no page is mapped to them. -/
theorem own_destroySpace (own : frame ∈ table.ownFrames) : table.ownFrames.count frame = 1 ∧
    table.leaves.count frame = 0 ∧ (memory.destroySpace handle).2.pool.refs frame = 0 := by
  -- Over all spaces, no frame is kept twice, and none that is kept is mapped.
  have once := Multiset.nodup_iff_count_le_one.mp sound.accounted.own_nodup frame
  have unmapped : frame ∉ memory.leaves := by
    refine Multiset.disjoint_left.mp sound.accounted.own_disjoint ?_
    rw [ownFrames, total_destroySpace found]
    exact Multiset.mem_add.mpr (.inl (Multiset.mem_coe.mpr own))
  rw [ownFrames, total_destroySpace found, Multiset.count_add, Multiset.coe_count,
    ← ownFrames] at once
  rw [leaves, total_destroySpace found, Multiset.mem_add, not_or, Multiset.mem_coe,
    ← leaves] at unmapped
  have positive := List.count_pos_iff.mpr own
  have left := Multiset.count_eq_zero.mpr unmapped.2
  refine ⟨by omega, List.count_eq_zero.mpr unmapped.1, ?_⟩
  rw [(sound.destroySpace handle).accounted.balanced.refs_eq, Multiset.count_add]
  omega

/-- A frame that a space maps is kept for no other purpose. -/
theorem count_own_of_leaf (mapped : frame ∈ table.leaves) :
    (memory.destroySpace handle).2.ownFrames.count frame = 0 := by
  have leaf : frame ∈ memory.leaves := by
    rw [leaves, total_destroySpace found]
    exact Multiset.mem_add.mpr (.inl (Multiset.mem_coe.mpr mapped))
  -- A frame that is mapped is no part of a table, here or elsewhere.
  have kept : frame ∉ memory.ownFrames := fun own =>
    Multiset.disjoint_left.mp sound.accounted.own_disjoint own leaf
  rw [ownFrames, total_destroySpace found, Multiset.mem_add, not_or, ← ownFrames] at kept
  exact Multiset.count_eq_zero.mpr kept.2

/-- Free afterwards is what was free, what was the space's own, and what it alone had mapped. -/
theorem mem_free_destroySpace (frame : FrameNumber) :
    frame ∈ (memory.destroySpace handle).2.pool.free ↔
      frame ∈ memory.pool.free ∨ frame ∈ table.ownFrames ∨ memory.MappedOnlyIn handle frame := by
  have counted := sound.refs_destroySpace found frame
  have after := (sound.destroySpace handle).accounted.balanced.refs_eq frame
  have inside : 0 < memory.pool.refs frame → frame < size := by
    rw [sound.accounted.balanced.refs_eq, Multiset.count_pos]
    exact sound.accounted.balanced.lt_size
  have own : 0 < table.ownFrames.count frame →
      (memory.destroySpace handle).2.pool.refs frame = 0 := fun positive =>
    (sound.own_destroySpace found (List.count_pos_iff.mp positive)).2.2
  have leaf : 0 < table.leaves.count frame →
      (memory.destroySpace handle).2.ownFrames.count frame = 0 := fun positive =>
    sound.count_own_of_leaf found (List.count_pos_iff.mp positive)
  -- A frame that the space alone maps has no other reference, as it is kept for nobody.
  rw [Multiset.count_add] at after
  rw [sound.mem_free_iff, (sound.destroySpace handle).mem_free_iff, sound.mappedOnlyIn_iff found,
    ← List.count_pos_iff, ← List.count_pos_iff, ← Multiset.count_eq_zero]
  constructor
  · rintro ⟨small, zero⟩
    by_cases unused : memory.pool.refs frame = 0
    · exact .inl ⟨small, unused⟩
    · exact .inr (by omega)
  · rintro (⟨small, zero⟩ | positive | ⟨positive, zero⟩)
    · exact ⟨small, by omega⟩
    · exact ⟨inside (by omega), own positive⟩
    · exact ⟨inside (by omega), by rw [after, leaf positive, zero]⟩

/-- The frames that become free are one for the directory, the page tables, and the mapped ones. -/
theorem freeCount_destroySpace : (memory.destroySpace handle).2.freeCount =
    memory.freeCount + 1 + table.tables.size +
      {frame | memory.MappedOnlyIn handle frame}.ncard := by
  -- What becomes free: the frames of the tables, and those that were mapped only here.
  let alone := table.leaves.dedup.filter (· ∉ (memory.destroySpace handle).2.leaves)
  have mem_alone (frame : FrameNumber) :
      frame ∈ alone ↔ memory.MappedOnlyIn handle frame := by
    simp [alone, sound.mappedOnlyIn_iff found]
  have nodup_alone : alone.Nodup := (List.nodup_dedup _).filter _
  have mapped : {frame | memory.MappedOnlyIn handle frame}.ncard = alone.length := by
    have same : {frame | memory.MappedOnlyIn handle frame} = ↑alone.toFinset := by
      ext frame
      simp [mem_alone]
    rw [same, Set.ncard_coe_finset, List.toFinset_card_of_nodup nodup_alone]
  have nodup_own : table.ownFrames.Nodup := by
    refine List.nodup_iff_count_le_one.mpr fun frame => ?_
    by_cases own : frame ∈ table.ownFrames
    · rw [(sound.own_destroySpace found own).1]
    · rw [List.count_eq_zero.mpr own]
      omega
  -- None of the three kinds of frames has a frame of another kind.
  have apart : table.ownFrames.Disjoint alone := fun frame own only =>
    absurd (sound.own_destroySpace found own).2.1
      (List.count_pos_iff.mpr ((sound.mappedOnlyIn_iff found).mp ((mem_alone _).mp only)).1).ne'
  have used : memory.pool.free.Disjoint (table.ownFrames ++ alone) := by
    intro frame free member
    have counted := sound.refs_destroySpace found frame
    rw [(sound.mem_free_iff.mp free).2] at counted
    rcases List.mem_append.mp member with own | only
    · have once := (sound.own_destroySpace found own).1
      omega
    · have leaf := ((sound.mappedOnlyIn_iff found).mp ((mem_alone _).mp only)).1
      have positive := List.count_pos_iff.mpr leaf
      omega
  have nodup : (memory.pool.free ++ (table.ownFrames ++ alone)).Nodup :=
    sound.nodup_free.append (nodup_own.append nodup_alone apart) used
  have perm : (memory.destroySpace handle).2.pool.free.Perm
      (memory.pool.free ++ (table.ownFrames ++ alone)) :=
    (List.perm_ext_iff_of_nodup (sound.destroySpace handle).nodup_free nodup).mpr fun frame => by
      simp [sound.mem_free_destroySpace found, mem_alone]
  -- Lists without duplicates that have the same members are equally long.
  have length := perm.length_eq
  simp only [List.length_append, PageTable.ownFrames, WordMap.values, List.length_map,
    List.length_singleton] at length
  rw [freeCount, FramePool.freeCount, length, mapped, freeCount, FramePool.freeCount,
    WordMap.size]
  omega

/-- Destroying a space takes back what it held. -/
theorem reclaims_destroySpace : memory.Reclaims (memory.destroySpace handle).2 handle table where
  tables other := memory.destroySpace_spec handle other
  own frame own := by
    -- A frame of the space itself is referred to by nothing else.
    have counted := sound.refs_destroySpace found frame
    obtain ⟨once, unmapped, left⟩ := sound.own_destroySpace found own
    exact ⟨by omega, left⟩
  refs frame other := by
    have counted := sound.refs_destroySpace found frame
    rw [List.count_eq_zero.mpr other, PageTable.count_leaves] at counted
    simp only [mappingsTo, mappings, found]
    omega
  free := sound.mem_free_destroySpace found
  freeCount := sound.freeCount_destroySpace found
  page_eq frame := memory.page_destroySpace handle frame

end Sound

end Memory

end Exokernel
