import Exokernel.Proofs.Kernel.Preservation
import Exokernel.Proofs.Memory.Refusals

/-! The page of a message is placed where the receiver wants it, or nothing is mapped or removed. -/

namespace Exokernel

namespace FramePool

/-- No frame can be allocated: none is free, or the next allocation is made to fail. -/
def isExhausted (pool : FramePool) : Bool :=
  pool.failNext || pool.free.isEmpty

/-- Allocating a frame fails exactly when no frame can be allocated. -/
theorem alloc_cases (pool : FramePool) :
    pool.isExhausted = true ∧ pool.alloc.1 = .error .outOfMemory ∨
      pool.isExhausted = false ∧ ∃ frame next, pool.alloc = (.ok frame, next) := by
  simp only [isExhausted, alloc]
  -- An allocation fails on purpose, or for want of a free frame.
  cases pool.failNext with
  | true => exact .inl ⟨rfl, rfl⟩
  | false =>
    cases pool.free with
    | nil => exact .inl ⟨rfl, rfl⟩
    | cons frame rest => exact .inr ⟨rfl, frame, _, rfl⟩

end FramePool

namespace Memory

variable {memory next : Memory} {handle : SpaceHandle} {va : Address}

/-- Mapping succeeds at a user page whose page table is there. -/
theorem map_isOk {table : PageTable} (found : memory.table? handle = some table)
    (aligned : isAligned va = true) (below : va < userTop)
    (present : (table.tables.find? (tableIndex va)).isSome = true) (frame : FrameNumber)
    (flags : PageFlags) : (memory.map handle va frame flags).1 = .ok () := by
  -- The address passes both checks, and no page table has to be allocated.
  obtain ⟨made, pool, inserted⟩ :
      ∃ made pool, table.insert memory.pool va frame flags = (.ok made, pool) :=
    PageTable.insert_isOk present
  have inside : ¬userTop ≤ va := UInt32.not_le.mpr below
  simp [map, aligned, inside, found, inserted]

/-- Where the page table is missing, mapping succeeds if a frame can be allocated for it. -/
theorem map_of_missing {table : PageTable} (found : memory.table? handle = some table)
    (aligned : isAligned va = true) (below : va < userTop)
    (absent : table.tables.find? (tableIndex va) = none) (frame : FrameNumber)
    (flags : PageFlags) : (memory.map handle va frame flags).1 =
      if memory.pool.isExhausted then .error (.mapping .outOfMemory) else .ok () := by
  have inside : ¬userTop ≤ va := UInt32.not_le.mpr below
  simp only [map, aligned, inside, found, PageTable.insert, PageTable.ensureTable, absent]
  -- The one thing left to go wrong is the frame for the table.
  rcases memory.pool.alloc_cases with ⟨exhausted, failed⟩ | ⟨left, taken, next, allocated⟩
  · cases tried : memory.pool.alloc with
    | mk result pool =>
      rw [tried] at failed
      simp only at failed
      simp [failed, exhausted]
  · simp [allocated, left]

/-- Removing a mapping that is not there changes nothing. -/
theorem Intact.unmap (missing : memory.entryAt? handle va = none) :
    Intact memory (memory.unmap handle va).2 := by
  -- The table is put back as it was taken out.
  cases found : memory.table? handle with
  | none =>
    simp only [Memory.unmap, found]
    exact .refl memory
  | some table =>
    have absent : table.entryAt? va = none := by simpa [entryAt?, found] using missing
    have same : table.remove memory.pool va = (table, memory.pool) := by
      simp [PageTable.remove, absent]
    rw [unmap_spec found, same]
    refine ⟨fun other => ?_, active_putTable _ _ _, ?_⟩
    · rw [table?_putTable _ _ (Nat.le_of_lt (index_lt_of_table? found))]
      split
      · rename_i here
        rw [here, found]
      · rfl
    · rw [pool_putTable]
      exact .refl _

end Memory

namespace PlannedMapping

variable {memory next : Memory} {planned : PlannedMapping}

/-- A planned mapping is carried out where the plan says. -/
theorem apply_ok (applied : planned.apply memory = (.ok (), next)) :
    memory.map planned.space planned.va planned.frame planned.flags = (.ok (), next) := by
  -- The plan only renames the errors of the memory.
  simp only [apply] at applied
  cases outcome : memory.map planned.space planned.va planned.frame planned.flags with
  | mk result made =>
    rw [outcome] at applied
    cases result with
    | ok => simpa [Except.mapError] using applied
    | error error => simp [Except.mapError] at applied

/-- A planned mapping that fails was refused by the memory. -/
theorem apply_error {error : SysError} (refused : planned.apply memory = (.error error, next)) :
    ∃ cause, memory.map planned.space planned.va planned.frame planned.flags =
      (.error cause, next) := by
  -- The plan only renames the errors of the memory.
  simp only [apply] at refused
  cases outcome : memory.map planned.space planned.va planned.frame planned.flags with
  | mk result made =>
    rw [outcome] at refused
    cases result with
    | ok => simp [Except.mapError] at refused
    | error cause =>
      simp only [Except.mapError, Prod.mk.injEq] at refused
      exact ⟨cause, by rw [refused.2]⟩

/-- Replacing a mapping in a space that exists removes the old one first. -/
theorem replace_eq {table : PageTable} (found : memory.table? planned.space = some table) :
    planned.replace memory = planned.apply (memory.unmap planned.space planned.va).2 := by
  -- Of a space that exists every page can be unmapped.
  simp only [replace, Memory.unmap_spec found]

/-- Replacing a mapping changes one space only, whether it succeeds or not. -/
theorem sameOutside_replace (planned : PlannedMapping) (memory : Memory) :
    Memory.SameOutside planned.space memory (planned.replace memory).2 := by
  -- Removing and mapping concern the same space.
  cases found : memory.table? planned.space with
  | none =>
    simp only [replace, Memory.unmap, found]
    exact .refl _ _
  | some table =>
    rw [replace_eq found]
    exact (memory.sameOutside_unmap planned.space planned.va).trans
      (Memory.sameOutside_map _ planned.space planned.va planned.frame planned.flags)

/-- A replaced mapping is found at the page of the plan, and no other mapping changes. -/
theorem replace_ok {table : PageTable} (found : memory.table? planned.space = some table)
    (placed : planned.replace memory = (.ok (), next)) (va : Address) :
    next.entryAt? planned.space va =
      if pageNumber va = pageNumber planned.va then
        some { frame := planned.frame, flags := planned.flags ||| .present }
      else memory.entryAt? planned.space va := by
  -- The page was cleared and mapped anew; other pages saw neither.
  rw [replace_eq found] at placed
  rw [Memory.entryAt?_map (apply_ok placed) va]
  split
  · rfl
  · rename_i elsewhere
    rw [Memory.entryAt?_unmap found, if_neg elsewhere]

/--
A mapping can be replaced unless its page table is missing and cannot be allocated.

If a page was mapped there, its page table is there too, so nothing is removed in vain.
-/
theorem replace_fst {table : PageTable} {size : Nat} {held : Multiset FrameNumber}
    (planned : PlannedMapping) (sound : memory.Sound size held)
    (found : memory.table? planned.space = some table) (aligned : isAligned planned.va = true)
    (below : planned.va < userTop) : (planned.replace memory).1 =
      if (table.tables.find? (tableIndex planned.va)).isNone && memory.pool.isExhausted then
        .error .outOfMemory
      else .ok () := by
  -- Removing the old mapping leaves all page tables where they were.
  obtain ⟨cleared, same, tables⟩ := Memory.table?_unmap found planned.va
  rw [replace_eq found, apply]
  cases present : table.tables.find? (tableIndex planned.va) with
  | some frame =>
    have mapped := Memory.map_isOk same aligned below (by rw [tables, present]; rfl) planned.frame
      planned.flags
    simp only [mapped]
    rfl
  | none =>
    -- Nothing is removed, so the frames that are free are those that were.
    have missing := sound.entryAt?_of_missing found present
    have mapped := Memory.map_of_missing same aligned below (by rw [tables, present])
      planned.frame planned.flags
    rw [Memory.pool_unmap_of_none missing] at mapped
    simp only [mapped, Option.isNone_none, Bool.true_and]
    split <;> rfl

/--
A mapping that cannot be replaced is left in place.

If there was something to remove, its page table is there, and then mapping cannot fail.
-/
theorem replace_error {error : SysError} {size : Nat} {held : Multiset FrameNumber}
    (sound : memory.Sound size held) (aligned : isAligned planned.va = true)
    (below : planned.va < userTop) (refused : planned.replace memory = (.error error, next)) :
    memory.Intact next := by
  -- A failure shows that the page table is missing, so that nothing was mapped there before.
  cases found : memory.table? planned.space with
  | none =>
    simp only [replace, Memory.unmap, found, Prod.mk.injEq] at refused
    rw [← refused.2]
    exact .refl memory
  | some table =>
    have decided := replace_fst planned sound found aligned below
    cases present : table.tables.find? (tableIndex planned.va) with
    | some frame => simp [refused, present] at decided
    | none =>
      rw [replace_eq found] at refused
      obtain ⟨cause, failed⟩ := apply_error refused
      exact (Memory.Intact.unmap (sound.entryAt?_of_missing found present)).trans (.map failed)

end PlannedMapping

end Exokernel
