import Exokernel.Memory.PageTable
import Exokernel.Proofs.Layout
import Exokernel.Proofs.Memory.FramePool
import Exokernel.Proofs.Memory.WordMap

/-! What the operations on one page table do to its mappings and to the accounts of the pool. -/

namespace Exokernel

namespace PageTable

/-- Every mapping lies in user memory, and in the span of a page table that exists. -/
structure Sound (table : PageTable) : Prop where
  /-- Only user pages are mapped. -/
  below : ∀ page entry, table.entries.find? page = some entry → page.toNat < userPageCount
  /-- A mapped page has its page table. -/
  covered : ∀ page entry, table.entries.find? page = some entry →
    (table.tables.find? (page / 1024)).isSome

/-- User memory has room for so many mappings. -/
theorem Sound.length_leaves_le {table : PageTable} (sound : table.Sound) :
    table.leaves.length ≤ userPageCount := by
  -- Distinct mappings have distinct page numbers, all below the end of user memory.
  simpa [leaves, WordMap.values, WordMap.size] using WordMap.size_le sound.below

/-- A mapped page has the page table that covers its address. -/
theorem Sound.tableIndex_isSome {table : PageTable} (sound : table.Sound) {va : Address}
    {entry : PageEntry} (found : table.entryAt? va = some entry) :
    (table.tables.find? (tableIndex va)).isSome := by
  -- Entries are only made where there is a page table.
  rw [tableIndex_eq]
  exact sound.covered _ entry found

/-- A frame that an address is mapped to is one of the leaves. -/
theorem mem_leaves {table : PageTable} {va : Address} {entry : PageEntry}
    (found : table.entryAt? va = some entry) : entry.frame ∈ table.leaves :=
  List.mem_map.mpr ⟨entry, (table.entries.mem_values_iff entry).mpr ⟨pageNumber va, found⟩, rfl⟩

variable {size : Nat} {pool next : FramePool} {own leaves held : Multiset FrameNumber}
  {table made : PageTable} {va : Address}

/-- A new page table maps nothing and takes a frame for its directory. -/
theorem create_ok (accounted : pool.Accounted size own leaves held)
    (created : PageTable.create pool = (.ok made, next)) :
    next.Accounted size (↑made.ownFrames + own) leaves held ∧ made.leaves = [] ∧ made.Sound := by
  -- The allocated frame is in hand until the directory takes it.
  simp only [create] at created
  split at created
  · simp at created
  · rename_i directory pool' allocated
    simp only [Prod.mk.injEq, Except.ok.injEq] at created
    obtain ⟨rfl, rfl⟩ := created
    refine ⟨?_, rfl, ⟨by simp, by simp⟩⟩
    simpa [ownFrames, WordMap.values, WordMap.empty] using (accounted.alloc_ok allocated).own_held

/-- A page table that cannot be created leaves the accounts as they were. -/
theorem create_error (accounted : pool.Accounted size own leaves held) {error : MapError}
    (refused : PageTable.create pool = (.error error, next)) :
    next.Accounted size own leaves held := by
  -- Only a failed allocation is reported, and it moves no frame.
  simp only [create] at refused
  split at refused
  · rename_i failure pool' allocated
    simp only [Prod.mk.injEq] at refused
    exact refused.2 ▸ accounted.alloc_error allocated
  · simp at refused

/-- Providing for an address keeps all mappings and page tables, and adds the missing one. -/
theorem ensureTable_ok (ensured : table.ensureTable pool va = (.ok made, next)) :
    made.entries = table.entries ∧ (made.tables.find? (tableIndex va)).isSome ∧
      ∀ index, (table.tables.find? index).isSome → (made.tables.find? index).isSome := by
  -- The page table is there already, or is added at an index that had none.
  simp only [ensureTable] at ensured
  split at ensured
  · rename_i frame found
    simp only [Prod.mk.injEq, Except.ok.injEq] at ensured
    obtain ⟨rfl, rfl⟩ := ensured
    exact ⟨rfl, by simp [found], fun _ present => present⟩
  · split at ensured
    · simp at ensured
    · simp only [Prod.mk.injEq, Except.ok.injEq] at ensured
      obtain ⟨rfl, rfl⟩ := ensured
      refine ⟨rfl, by simp, fun index present => ?_⟩
      by_cases same : index = tableIndex va
      · simp [same]
      · rwa [WordMap.find?_insert_other _ _ same]

/-- A page table that is added takes a frame of its own. -/
theorem ensureTable_accounted (accounted : pool.Accounted size (↑table.ownFrames + own) leaves held)
    (ensured : table.ensureTable pool va = (.ok made, next)) :
    next.Accounted size (↑made.ownFrames + own) leaves held := by
  -- A table that is there already costs nothing; a missing one takes one frame.
  simp only [ensureTable] at ensured
  split at ensured
  · simp only [Prod.mk.injEq, Except.ok.injEq] at ensured
    exact ensured.1 ▸ ensured.2 ▸ accounted
  · rename_i missing
    split at ensured
    · simp at ensured
    · rename_i frame pool' allocated
      simp only [Prod.mk.injEq, Except.ok.injEq] at ensured
      obtain ⟨rfl, rfl⟩ := ensured
      -- The index had no table, so the new frame joins the others.
      have added := table.tables.values_insert (tableIndex va) frame
      simp only [missing, Option.toList_none, List.append_nil] at added
      have more := Multiset.coe_eq_coe.mpr (added.append_right [table.directory])
      simpa [ownFrames, more, Multiset.cons_add, ← Multiset.cons_coe] using
        (accounted.alloc_ok allocated).own_held

/-- An address that cannot be provided for leaves the accounts as they were. -/
theorem ensureTable_error (accounted : pool.Accounted size own leaves held) {error : MapError}
    (refused : table.ensureTable pool va = (.error error, next)) :
    next.Accounted size own leaves held := by
  -- Only a failed allocation is reported, and it moves no frame.
  simp only [ensureTable] at refused
  split at refused
  · simp at refused
  · split at refused
    · rename_i failure pool' allocated
      simp only [Prod.mk.injEq] at refused
      exact refused.2 ▸ accounted.alloc_error allocated
    · simp at refused

/-- Providing for an address whose page table exists changes nothing. -/
theorem ensureTable_of_isSome (present : (table.tables.find? (tableIndex va)).isSome) :
    table.ensureTable pool va = (.ok table, pool) := by
  -- A frame is taken only where no page table is found.
  obtain ⟨frame, found⟩ := Option.isSome_iff_exists.mp present
  simp [ensureTable, found]

variable {frame : FrameNumber} {flags : PageFlags}

/-- Mapping a page changes the entry of that page, and at most adds a page table. -/
theorem insert_ok (inserted : table.insert pool va frame flags = (.ok made, next)) :
    made.entries = table.entries.insert (pageNumber va) { frame, flags := flags ||| .present } ∧
      (made.tables.find? (tableIndex va)).isSome ∧
      ∀ index, (table.tables.find? index).isSome → (made.tables.find? index).isSome := by
  -- The entry is written after the page table has been provided for.
  simp only [insert] at inserted
  split at inserted
  · simp at inserted
  · rename_i ensured pool' provided
    obtain ⟨entries, here, kept⟩ := ensureTable_ok provided
    simp only [Prod.mk.injEq, Except.ok.injEq] at inserted
    obtain ⟨rfl, -⟩ := inserted
    exact ⟨by rw [entries], here, kept⟩

/-- A mapped page is found at all addresses of its page, and nothing else changes. -/
theorem entryAt?_insert (inserted : table.insert pool va frame flags = (.ok made, next))
    (other : Address) : made.entryAt? other =
      if pageNumber other = pageNumber va then some { frame, flags := flags ||| .present }
      else table.entryAt? other := by
  -- Entries are kept by page, so two addresses of one page read the same entry.
  rw [entryAt?, (insert_ok inserted).1]
  split
  · rename_i same
    rw [same, WordMap.find?_insert_same]
  · rename_i different
    rw [WordMap.find?_insert_other _ _ different, entryAt?]

/-- A page in user memory can be mapped soundly. -/
theorem Sound.insert (sound : table.Sound) (below : va < userTop)
    (inserted : table.insert pool va frame flags = (.ok made, next)) : made.Sound := by
  -- The new entry is in range and has its table; the others had theirs before.
  obtain ⟨entries, here, kept⟩ := insert_ok inserted
  refine ⟨fun page entry found => ?_, fun page entry found => ?_⟩ <;> rw [entries] at found
  · by_cases same : page = pageNumber va
    · exact same ▸ pageNumber_lt below
    · exact sound.below page entry (WordMap.find?_insert_other _ _ same ▸ found)
  · by_cases same : page = pageNumber va
    · exact same ▸ tableIndex_eq va ▸ here
    · exact kept _ (sound.covered page entry (WordMap.find?_insert_other _ _ same ▸ found))

/-- A mapping is one more leaf, in exchange for the one that was there before. -/
theorem leaves_insert (inserted : table.insert pool va frame flags = (.ok made, next)) :
    (made.leaves : Multiset FrameNumber) + ↑((table.entryAt? va).map PageEntry.frame).toList =
      frame ::ₘ ↑table.leaves := by
  -- Entries are exchanged one for one, and so are the frames that they name.
  have values := (table.entries.values_insert (pageNumber va)
    { frame, flags := flags ||| .present }).map PageEntry.frame
  rw [leaves, leaves, (insert_ok inserted).1, Multiset.coe_add, Multiset.cons_coe,
    Multiset.coe_eq_coe, entryAt?]
  simpa [Option.toList_map] using values

/-- Mapping a frame that may be mapped keeps the accounts. -/
theorem insert_accounted {rest : Multiset FrameNumber}
    (accounted : pool.Accounted size (↑table.ownFrames + own) (↑table.leaves + leaves) held)
    (mappable : FramePool.Accounted.Mappable (↑table.leaves + leaves) frame held rest)
    (inserted : table.insert pool va frame flags = (.ok made, next)) :
    next.Accounted size (↑made.ownFrames + own) (↑made.leaves + leaves) rest := by
  -- The new frame is counted first, so that mapping a page to its own frame never frees it.
  have exchanged := leaves_insert inserted
  simp only [insert] at inserted
  split at inserted
  · simp at inserted
  · rename_i ensured pool' provided
    have before : ensured.entryAt? va = table.entryAt? va := by
      rw [entryAt?, (ensureTable_ok provided).1, entryAt?]
    have counted := (ensureTable_accounted accounted provided).map mappable
    rw [← Multiset.cons_add, ← exchanged, ← before, add_assoc, add_left_comm] at counted
    simp only [Prod.mk.injEq, Except.ok.injEq] at inserted
    obtain ⟨rfl, rfl⟩ := inserted
    cases old : ensured.entryAt? va with
    | none =>
      rw [old, Option.map_none, Option.toList_none, Multiset.coe_nil, zero_add] at counted
      exact counted
    | some entry =>
      rw [old, Option.map_some, Option.toList_some, Multiset.coe_singleton,
        Multiset.singleton_add] at counted
      exact counted.unmap

/-- A page that cannot be mapped leaves the accounts as they were. -/
theorem insert_error {error : MapError}
    (accounted : pool.Accounted size (↑table.ownFrames + own) leaves held)
    (refused : table.insert pool va frame flags = (.error error, next)) :
    next.Accounted size (↑table.ownFrames + own) leaves held := by
  -- Only providing the page table can fail, before any entry changes.
  simp only [insert] at refused
  split at refused
  · rename_i failure pool' provided
    simp only [Prod.mk.injEq] at refused
    exact refused.2 ▸ ensureTable_error accounted provided
  · simp at refused

/-- A page whose page table exists can always be mapped. -/
theorem insert_isOk (present : (table.tables.find? (tableIndex va)).isSome) :
    ∃ made next, table.insert pool va frame flags = (.ok made, next) := by
  -- Nothing else could fail.
  simp [insert, ensureTable_of_isSome present]

/-- Removing a mapping changes the entry of that page only. -/
theorem remove_entries (table : PageTable) (pool : FramePool) (va : Address) (page : Word) :
    (table.remove pool va).1.entries.find? page =
      if page = pageNumber va then none else table.entries.find? page := by
  -- A page without a mapping is left as it is, which is what removing asks for.
  simp only [remove, entryAt?]
  split
  · split
    · rename_i same
      simp [same]
    · rename_i different
      simp [WordMap.find?_erase_other _ different]
  · rename_i absent
    split
    · rename_i same
      exact same ▸ absent
    · rfl

/-- Removing a mapping keeps the directory and all page tables. -/
theorem remove_tables (table : PageTable) (pool : FramePool) (va : Address) :
    (table.remove pool va).1.tables = table.tables ∧
      (table.remove pool va).1.directory = table.directory := by
  -- Only the entry goes, if there is one.
  simp only [remove]
  split <;> exact ⟨rfl, rfl⟩

/-- A removed mapping is found at no address of its page, and nothing else changes. -/
theorem entryAt?_remove (table : PageTable) (pool : FramePool) (va other : Address) :
    (table.remove pool va).1.entryAt? other =
      if pageNumber other = pageNumber va then none else table.entryAt? other :=
  remove_entries table pool va (pageNumber other)

/-- Removing a mapping keeps a table sound. -/
theorem Sound.remove (sound : table.Sound) (pool : FramePool) (va : Address) :
    (table.remove pool va).1.Sound := by
  -- Every mapping that is left was there before.
  have before {page : Word} {entry : PageEntry}
      (found : (table.remove pool va).1.entries.find? page = some entry) :
      table.entries.find? page = some entry := by
    rw [remove_entries] at found
    split at found
    · simp at found
    · exact found
  refine ⟨fun page entry found => sound.below page entry (before found), fun page entry found => ?_⟩
  rw [(remove_tables table pool va).1]
  exact sound.covered page entry (before found)

/-- Removing a mapping keeps the accounts. -/
theorem remove_accounted (accounted : pool.Accounted size own (↑table.leaves + leaves) held) :
    (table.remove pool va).2.Accounted size own (↑(table.remove pool va).1.leaves + leaves)
      held := by
  -- The frame of the removed entry is one of the leaves, and loses that reference.
  simp only [remove]
  split
  · rename_i old found
    have values := (table.entries.values_erase (pageNumber va)).map PageEntry.frame
    rw [entryAt?] at found
    rw [found, Option.toList_some, List.map_append, ← Multiset.coe_eq_coe, ← Multiset.coe_add,
      List.map_singleton, Multiset.coe_singleton, add_comm, Multiset.singleton_add] at values
    rw [PageTable.leaves, ← values, Multiset.cons_add] at accounted
    exact accounted.unmap
  · exact accounted

/-- Releasing a table settles all that it refers to. -/
theorem release_accounted
    (accounted : pool.Accounted size (↑table.ownFrames + own) (↑table.leaves + leaves) held) :
    (table.release pool).Accounted size own leaves held :=
  accounted.foldl_decref

end PageTable

end Exokernel
