import Exokernel.Proofs.Memory.Private

/-! What operations on one space add to the references of all spaces, and take from them. -/

namespace Exokernel

/-- The frames of page tables are the same, or one of the free frames has joined them. -/
def TakesAtMost (free : List FrameNumber) (before after : Multiset FrameNumber) : Prop :=
  after = before ∨ ∃ taken ∈ free, after = taken ::ₘ before

namespace PageTable

variable {pool next : FramePool} {table made : PageTable} {va : Address} {frame : FrameNumber}
  {flags : PageFlags} {old : PageEntry}

/-- Providing for an address takes a frame if the page table is missing. -/
theorem ownFrames_ensureTable (ensured : table.ensureTable pool va = (.ok made, next)) :
    TakesAtMost pool.free ↑table.ownFrames ↑made.ownFrames := by
  simp only [ensureTable] at ensured
  split at ensured
  · simp only [Prod.mk.injEq, Except.ok.injEq] at ensured
    exact .inl (by rw [ensured.1])
  · rename_i missing
    split at ensured
    · simp at ensured
    · rename_i taken pool' allocated
      simp only [Prod.mk.injEq, Except.ok.injEq] at ensured
      obtain ⟨rfl, -⟩ := ensured
      -- The index had no table, so that the new frame is one more.
      have added := table.tables.values_insert (tableIndex va) taken
      rw [missing, Option.toList_none, List.append_nil] at added
      refine .inr ⟨taken, (FramePool.alloc_ok_spec allocated).1, ?_⟩
      rw [Multiset.cons_coe]
      exact Multiset.coe_eq_coe.mpr (added.append_right [table.directory])

/-- Mapping a page takes no frame but for its page table. -/
theorem ownFrames_insert (inserted : table.insert pool va frame flags = (.ok made, next)) :
    TakesAtMost pool.free ↑table.ownFrames ↑made.ownFrames := by
  simp only [insert] at inserted
  split at inserted
  · simp at inserted
  · rename_i ensured pool' provided
    simp only [Prod.mk.injEq, Except.ok.injEq] at inserted
    -- The entry itself is in the page table that was ensured.
    have same : made.ownFrames = ensured.ownFrames := by
      rw [← inserted.1]
      rfl
    exact same ▸ ownFrames_ensureTable provided

/-- Where the page table is there already, mapping a page adds none. -/
theorem tables_insert (present : (table.tables.find? (tableIndex va)).isSome = true)
    (inserted : table.insert pool va frame flags = (.ok made, next)) :
    made.tables = table.tables ∧ made.directory = table.directory := by
  -- To ensure a table that is there changes nothing.
  rw [PageTable.insert, ensureTable_of_isSome present] at inserted
  simp only [Prod.mk.injEq, Except.ok.injEq] at inserted
  rw [← inserted.1]
  exact ⟨rfl, rfl⟩

/-- A removed mapping is one leaf less. -/
theorem leaves_remove (table : PageTable) (pool : FramePool) (va : Address) :
    ((table.remove pool va).1.leaves : Multiset FrameNumber) +
      ↑((table.entryAt? va).map PageEntry.frame).toList = ↑table.leaves := by
  simp only [remove]
  split
  · rename_i old found
    -- The entry that goes is the one that the page had.
    have values := (table.entries.values_erase (pageNumber va)).map PageEntry.frame
    rw [entryAt?] at found
    rw [leaves, leaves, Multiset.coe_add, Multiset.coe_eq_coe]
    simpa [found, entryAt?] using values
  · rename_i absent
    simp [absent]

end PageTable

namespace Memory

variable {memory next : Memory} {handle : SpaceHandle} {va : Address} {frame : FrameNumber}
  {flags : PageFlags} {old : PageEntry} {table made : PageTable} {size : Nat}

/-- The frame that a page of a space is mapped to, if there is one. -/
def frameAt (memory : Memory) (handle : SpaceHandle) (va : Address) : Multiset FrameNumber :=
  ↑((memory.entryAt? handle va).map PageEntry.frame).toList

/-- A page that is mapped has one frame. -/
theorem frameAt_of_some (found : memory.entryAt? handle va = some old) :
    memory.frameAt handle va = {old.frame} := by
  -- The entry names it.
  rw [frameAt, found]
  rfl

/-- A page that is not mapped has no frame. -/
theorem frameAt_of_none (missing : memory.entryAt? handle va = none) :
    memory.frameAt handle va = 0 := by
  -- There is no entry to name one.
  rw [frameAt, missing]
  rfl

/-- A table that takes another one's place takes its place in all sums. -/
theorem total_replaced {M : Type} [AddCommMonoid M] (found : memory.table? handle = some table)
    (made : PageTable) (pool : FramePool) (measure : PageTable → M) :
    (({ memory with pool } : Memory).putTable handle (some made)).total measure + measure table =
      measure made + memory.total measure := by
  have inRange := Nat.le_of_lt (index_lt_of_table? found)
  -- What the other spaces add up to does not depend on the frames.
  have others : (({ memory with pool } : Memory).putTable handle none).total measure =
      (memory.putTable handle none).total measure :=
    total_congr _ _ (spaces_putTable memory handle none pool memory.active)
  have here := ({ memory with pool } : Memory).total_putTable measure (some made) inRange
  rw [here, others, memory.total_eq_add measure inRange, found]
  simp only [Option.map_some, Option.getD_some]
  abel

/-- A mapping is one leaf more, in exchange for the one that was there. -/
theorem leaves_map (mapped : memory.map handle va frame flags = (.ok (), next)) :
    next.leaves + memory.frameAt handle va = frame ::ₘ memory.leaves := by
  obtain ⟨table, made, pool, -, -, found, inserted, rfl⟩ := map_ok_spec mapped
  have replaced := total_replaced found made pool fun table =>
    (table.leaves : Multiset FrameNumber)
  have exchanged := PageTable.leaves_insert inserted
  have here : memory.frameAt handle va = ↑((table.entryAt? va).map PageEntry.frame).toList := by
    rw [frameAt, entryAt?, found]
    rfl
  -- The leaves of the old table stand on both sides.
  refine add_right_cancel (b := (table.leaves : Multiset FrameNumber)) ?_
  calc _ = (↑made.leaves + ↑((table.entryAt? va).map PageEntry.frame).toList) +
        memory.leaves := by
        rw [here, add_right_comm, leaves, replaced, leaves]
        abel
    _ = _ := by rw [exchanged, Multiset.cons_add, Multiset.cons_add, add_comm]

/-- Mapping a page takes no frame but for its page table. -/
theorem ownFrames_map (mapped : memory.map handle va frame flags = (.ok (), next)) :
    TakesAtMost memory.pool.free memory.ownFrames next.ownFrames := by
  obtain ⟨table, made, pool, -, -, found, inserted, rfl⟩ := map_ok_spec mapped
  have replaced := total_replaced found made pool fun table =>
    (table.ownFrames : Multiset FrameNumber)
  -- The other spaces have what they had, so that their parts cancel.
  rcases PageTable.ownFrames_insert inserted with same | ⟨taken, free, more⟩
  · refine .inl (add_right_cancel (replaced.trans ?_))
    rw [same, add_comm, ownFrames]
  · refine .inr ⟨taken, free, add_right_cancel (replaced.trans ?_)⟩
    rw [more, Multiset.cons_add, Multiset.cons_add, add_comm, ownFrames]

/-- Where the page table is there already, mapping a page takes no frame. -/
theorem ownFrames_map_of_table (found : memory.table? handle = some table)
    (present : (table.tables.find? (tableIndex va)).isSome = true)
    (mapped : memory.map handle va frame flags = (.ok (), next)) :
    next.ownFrames = memory.ownFrames := by
  obtain ⟨table', made, pool, -, -, found', inserted, rfl⟩ := map_ok_spec mapped
  obtain rfl : table = table' := Option.some.inj (found.symm.trans found')
  obtain ⟨tables, directory⟩ := PageTable.tables_insert present inserted
  -- Frames of its own are those of the directory and of the page tables, which both stay.
  have same : made.ownFrames = table.ownFrames := by
    rw [PageTable.ownFrames, tables, directory, PageTable.ownFrames]
  refine add_right_cancel ((total_replaced found made pool fun table =>
    (table.ownFrames : Multiset FrameNumber)).trans ?_)
  rw [same, add_comm, ownFrames]

/-- A page that is mapped has its page table, so that mapping it anew takes no frame. -/
theorem Sound.ownFrames_map (sound : memory.Sound size 0)
    (before : memory.entryAt? handle va = some old)
    (mapped : memory.map handle va frame flags = (.ok (), next)) :
    next.ownFrames = memory.ownFrames := by
  -- The table that is changed is the one with the entry.
  obtain ⟨table, -, -, -, -, found, -⟩ := map_ok_spec mapped
  exact ownFrames_map_of_table found (sound.tableIndex_isSome found before) mapped

/-- A removed mapping is one leaf less. -/
theorem leaves_unmap (memory : Memory) (handle : SpaceHandle) (va : Address) :
    (memory.unmap handle va).2.leaves + memory.frameAt handle va = memory.leaves := by
  cases found : memory.table? handle with
  | none => simp [unmap, found, frameAt, entryAt?]
  | some table =>
    have replaced := total_replaced found (table.remove memory.pool va).1
      (table.remove memory.pool va).2 fun table => (table.leaves : Multiset FrameNumber)
    -- The table has lost what stood at the page, and the other tables are as they were.
    have fewer := table.leaves_remove memory.pool va
    have here : memory.frameAt handle va = ↑((table.entryAt? va).map PageEntry.frame).toList := by
      rw [frameAt, entryAt?, found]
      rfl
    rw [unmap_spec found, here]
    refine add_right_cancel (b := (table.leaves : Multiset FrameNumber)) ?_
    calc _ = (↑(table.remove memory.pool va).1.leaves +
          ↑((table.entryAt? va).map PageEntry.frame).toList) + memory.leaves := by
          rw [add_right_comm, leaves, replaced, leaves]
          abel
      _ = _ := by rw [fewer, add_comm]

/-- Page tables stay when a mapping is removed. -/
theorem ownFrames_unmap (memory : Memory) (handle : SpaceHandle) (va : Address) :
    (memory.unmap handle va).2.ownFrames = memory.ownFrames := by
  cases found : memory.table? handle with
  | none => simp [unmap, found]
  | some table =>
    obtain ⟨tables, directory⟩ := table.remove_tables memory.pool va
    -- Removing a leaf leaves the table, and so the frames that it is made of.
    have same : (table.remove memory.pool va).1.ownFrames = table.ownFrames := by
      rw [PageTable.ownFrames, tables, directory, PageTable.ownFrames]
    rw [unmap_spec found]
    refine add_right_cancel ((total_replaced found _ _ fun table =>
      (table.ownFrames : Multiset FrameNumber)).trans ?_)
    rw [same, add_comm, ownFrames]

/-- Mapping a fresh page is taking a frame and mapping it. -/
theorem mapFresh_ok (mapped : memory.mapFresh handle va flags = (.ok (), next)) :
    ∃ frame pool, memory.pool.alloc = (.ok frame, pool) ∧
      ({ memory with pool } : Memory).map handle va frame flags = (.ok (), next) := by
  -- A frame that could not be mapped is given back, and then there is no success.
  simp only [mapFresh, allocFrame] at mapped
  cases allocated : memory.pool.alloc with
  | mk result pool =>
    rw [allocated] at mapped
    cases result with
    | error cause => simp at mapped
    | ok frame =>
      dsimp only at mapped
      split at mapped
      · simp at mapped
      · rename_i after done
        simp only [Prod.mk.injEq, true_and] at mapped
        exact ⟨frame, pool, rfl, mapped ▸ done⟩

/-- A fresh page is one leaf more, in exchange for the one that was there. -/
theorem leaves_mapFresh (mapped : memory.mapFresh handle va flags = (.ok (), next))
    (found : next.entryAt? handle va = some old) :
    next.leaves + memory.frameAt handle va = old.frame ::ₘ memory.leaves := by
  -- The fresh frame is what the page is mapped to afterwards.
  obtain ⟨frame, pool, -, placed⟩ := mapFresh_ok mapped
  rw [entryAt?_map placed, if_pos rfl, Option.some.injEq] at found
  subst found
  have exchanged := leaves_map placed
  exact exchanged

/-- A fresh page takes no frame but its own and one for its page table. -/
theorem ownFrames_mapFresh (mapped : memory.mapFresh handle va flags = (.ok (), next)) :
    TakesAtMost memory.pool.free memory.ownFrames next.ownFrames := by
  obtain ⟨frame, pool, allocated, placed⟩ := mapFresh_ok mapped
  -- A frame that is free once the page has its own was free before.
  obtain ⟨-, -, supplies⟩ := FramePool.alloc_ok_spec allocated
  rcases Memory.ownFrames_map placed with same | ⟨taken, free, more⟩
  · exact .inl same
  · exact .inr ⟨taken, supplies.free_subset taken free, more⟩

/-- Writing bytes moves no reference. -/
theorem references_copyOut (memory : Memory) (handle : SpaceHandle) (va : Address)
    (bytes : List UInt8) :
    (memory.copyOut handle va bytes).2.leaves = memory.leaves ∧
      (memory.copyOut handle va bytes).2.ownFrames = memory.ownFrames := by
  -- References are made by page tables, and these stay.
  have spaces := (memory.spaces_copyOut handle va bytes).1
  exact ⟨total_congr _ _ spaces, total_congr _ _ spaces⟩

/-- A frame that a page is mapped to has only mappings among its references. -/
theorem Sound.refs_of_leaf (sound : memory.Sound size 0) (member : frame ∈ memory.leaves) :
    memory.pool.refs frame = memory.leaves.count frame := by
  -- A page table's frame is never mapped as a page.
  have notOwn : frame ∉ memory.ownFrames := fun own =>
    Multiset.disjoint_left.mp sound.accounted.own_disjoint own member
  rw [sound.accounted.balanced.refs_eq, Multiset.count_add, Multiset.count_eq_zero.mpr notOwn,
    Nat.zero_add]

/-- A free frame is neither mapped nor part of a page table. -/
theorem Sound.not_mem_leaves_of_free (sound : memory.Sound size 0)
    (free : frame ∈ memory.pool.free) : frame ∉ memory.leaves ∧ frame ∉ memory.ownFrames := by
  -- A reference would be counted, and free frames have a count of zero.
  have unused : memory.pool.refs frame = 0 := by
    by_contra used
    exact sound.not_mem_free (Nat.pos_of_ne_zero used) free
  rw [sound.accounted.balanced.refs_eq, Multiset.count_eq_zero, Multiset.mem_add, not_or] at unused
  exact ⟨unused.2, unused.1⟩

/-- The frame that a page is mapped to is one of the leaves. -/
theorem mem_leaves_of_mem_frameAt (member : frame ∈ memory.frameAt handle va) :
    frame ∈ memory.leaves := by
  -- Removing the mapping would take just this leaf away.
  rw [← memory.leaves_unmap handle va]
  exact Multiset.mem_add.mpr (.inr member)

/-- A fresh page has the only reference to its frame. -/
theorem Sound.refs_of_mapFresh (sound : memory.Sound size 0) (after : next.Sound size 0)
    (mapped : memory.mapFresh handle va flags = (.ok (), next))
    (found : next.entryAt? handle va = some old) (free : old.frame ∈ memory.pool.free) :
    next.pool.refs old.frame = 1 := by
  -- The frame was mapped nowhere, and so is not the one whose place it takes.
  have unmapped := (sound.not_mem_leaves_of_free free).1
  have replaced : (memory.frameAt handle va).count old.frame = 0 :=
    Multiset.count_eq_zero.mpr fun member => unmapped (mem_leaves_of_mem_frameAt member)
  have exchanged := congrArg (Multiset.count old.frame) (leaves_mapFresh mapped found)
  rw [Multiset.count_add, replaced, Nat.add_zero, Multiset.count_cons_self,
    Multiset.count_eq_zero.mpr unmapped] at exchanged
  rw [after.refs_of_leaf (mem_leaves found), exchanged]

end Memory

end Exokernel
