import Exokernel.Memory.Access
import Exokernel.Proofs.Memory.PageTable

/-! Operations on address spaces keep every reference to a frame accounted for. -/

namespace Exokernel.Memory

/-- A page table is replaced behind its own handle and no other. -/
theorem table?_putTable (memory : Memory) {handle : SpaceHandle} (table : Option PageTable)
    (inRange : handle.index ≤ memory.spaces.size) (other : SpaceHandle) :
    (memory.putTable handle table).table? other =
      if other = handle then table else memory.table? other := by
  -- A handle in range is overwritten, and the one next in line is appended.
  obtain ⟨position⟩ := handle
  obtain ⟨place⟩ := other
  simp only [putTable, table?, SpaceHandle.mk.injEq]
  split
  · rename_i inside
    by_cases same : place = position
    · subst same
      simp [Array.getElem?_setIfInBounds_self_of_lt inside]
    · simp [same, Array.getElem?_setIfInBounds_ne (Ne.symm same)]
  · -- The handle is next in line, so the table is the last one now.
    have last : position = memory.spaces.size :=
      Nat.le_antisymm inRange (Nat.not_lt.mp ‹_›)
    subst last
    by_cases same : place = memory.spaces.size <;> simp [same, Array.getElem?_push]

/-- To put a table in its place leaves the frames alone. -/
@[simp] theorem pool_putTable (memory : Memory) (handle : SpaceHandle)
    (table : Option PageTable) : (memory.putTable handle table).pool = memory.pool := by
  -- It replaces a table, or is added behind all others.
  simp only [putTable]
  split <;> rfl

/-- To put a table in its place leaves the space in use alone. -/
@[simp] theorem active_putTable (memory : Memory) (handle : SpaceHandle)
    (table : Option PageTable) : (memory.putTable handle table).active = memory.active := by
  -- It replaces a table, or is added behind all others.
  simp only [putTable]
  split <;> rfl

/-- What stands behind the handles does not depend on the frames and the space in use. -/
theorem spaces_putTable (memory : Memory) (handle : SpaceHandle) (table : Option PageTable)
    (pool : FramePool) (active : Option SpaceHandle) :
    (({ memory with pool, active } : Memory).putTable handle table).spaces =
      (memory.putTable handle table).spaces := by
  -- Which of the two happens is decided by the number of spaces.
  simp only [putTable]
  split <;> rfl

/-- Spaces are added one at a time. -/
theorem size_putTable_le (memory : Memory) (handle : SpaceHandle) (table : Option PageTable) :
    (memory.putTable handle table).spaces.size ≤ memory.spaces.size + 1 := by
  -- A table that replaces another one adds nothing.
  simp only [putTable]
  split <;> simp

/-- A handle that names a space is in range. -/
theorem index_lt_of_table? {memory : Memory} {handle : SpaceHandle} {table : PageTable}
    (found : memory.table? handle = some table) : handle.index < memory.spaces.size := by
  -- Past the end of the array no handle names a space.
  by_contra outside
  have absent : memory.spaces[handle.index]? = none := Array.getElem?_eq_none (by omega)
  simp [table?, absent] at found

/-- The handle for the next space is in range or next in line, and names no space yet. -/
theorem vacantHandle_spec (memory : Memory) :
    memory.vacantHandle.index ≤ memory.spaces.size ∧ memory.table? memory.vacantHandle = none := by
  -- The search finds the first gap, or there is none and the array grows.
  simp only [vacantHandle, table?]
  cases found : memory.spaces.findIdx? Option.isNone with
  | none => simp
  | some index =>
    obtain ⟨inside, gap, -⟩ := Array.findIdx?_eq_some_iff_getElem.mp found
    simp only [Option.isNone_iff_eq_none] at gap
    simp [Array.getElem?_eq_getElem inside, gap, Nat.le_of_lt inside]

/-- Adds up a quantity of page tables over all address spaces. -/
def total {M : Type} [AddCommMonoid M] (memory : Memory) (measure : PageTable → M) : M :=
  ∑ index ∈ Finset.range memory.spaces.size, ((memory.table? ⟨index⟩).map measure).getD 0

section Total

variable {M : Type} [AddCommMonoid M] (memory : Memory) (measure : PageTable → M)

/-- Counting on past the last space adds nothing. -/
theorem total_eq_sum {bound : Nat} (enough : memory.spaces.size ≤ bound) :
    memory.total measure =
      ∑ index ∈ Finset.range bound, ((memory.table? ⟨index⟩).map measure).getD 0 := by
  -- Handles past the end name no space and contribute nothing.
  refine Finset.sum_subset (Finset.range_mono enough) fun index _ outside => ?_
  have absent : memory.spaces[index]? = none :=
    Array.getElem?_eq_none (by simpa using outside)
  simp [table?, absent]

/-- A quantity of page tables depends on the spaces alone. -/
theorem total_congr {next : Memory} (same : next.spaces = memory.spaces) :
    next.total measure = memory.total measure := by
  -- The sum runs over the tables, which the spaces give.
  simp only [total, table?, same]

/-- A space adds its own share to what all the others add up to. -/
theorem total_putTable {handle : SpaceHandle} (table : Option PageTable)
    (inRange : handle.index ≤ memory.spaces.size) :
    (memory.putTable handle table).total measure =
      (table.map measure).getD 0 + (memory.putTable handle none).total measure := by
  -- Take the handle's own summand out of both sums.
  have here : handle.index ∈ Finset.range (memory.spaces.size + 1) := by
    simpa [Nat.lt_succ_iff] using inRange
  rw [total_eq_sum _ measure (memory.size_putTable_le handle table),
    total_eq_sum _ measure (memory.size_putTable_le handle none),
    ← Finset.add_sum_erase _ _ here, ← Finset.add_sum_erase _ _ here]
  simp only [memory.table?_putTable _ inRange, if_true, Option.map_none, Option.getD_none, zero_add]
  -- Away from the handle both sides add up the same tables.
  congr 1
  refine Finset.sum_congr rfl fun index elsewhere => ?_
  have different : (⟨index⟩ : SpaceHandle) ≠ handle := by
    rintro rfl
    simp at elsewhere
  rw [if_neg different, if_neg different]

/-- What all spaces add up to is one space's share and that of all others. -/
theorem total_eq_add {handle : SpaceHandle} (inRange : handle.index ≤ memory.spaces.size) :
    memory.total measure = ((memory.table? handle).map measure).getD 0 +
      (memory.putTable handle none).total measure := by
  -- A space's table put back in its own place changes no summand.
  rw [← memory.total_putTable measure _ inRange,
    total_eq_sum _ measure (Nat.le_succ memory.spaces.size),
    total_eq_sum _ measure (memory.size_putTable_le handle _)]
  refine Finset.sum_congr rfl fun index _ => ?_
  rw [memory.table?_putTable _ inRange]
  split
  · rename_i same
    rw [same]
  · rfl

end Total

/-- The frames that pages of all spaces are mapped to, once for each mapping. -/
def leaves (memory : Memory) : Multiset FrameNumber :=
  memory.total fun table => ↑table.leaves

/-- The frames that page tables and directories of all spaces are kept in. -/
def ownFrames (memory : Memory) : Multiset FrameNumber :=
  memory.total fun table => ↑table.ownFrames

/-- Number of address spaces. -/
def spaceCount (memory : Memory) : Nat :=
  memory.total fun _ => 1

/-- Every reference in a memory of `size` frames is accounted for, and every page table is sound. -/
structure Sound (memory : Memory) (size : Nat) (held : Multiset FrameNumber) : Prop where
  /-- Counters and free list agree with the page tables. -/
  accounted : memory.pool.Accounted size memory.ownFrames memory.leaves held
  /-- Each page table is sound by itself. -/
  tables : ∀ handle table, memory.table? handle = some table → table.Sound

/-- Between two states, at most one space got other page-table entries, and none came or went. -/
structure SameOutside (handle : SpaceHandle) (memory next : Memory) : Prop where
  /-- Other spaces are as they were. -/
  others : ∀ other, other ≠ handle → next.table? other = memory.table? other
  /-- The same handles name spaces. -/
  isSome_eq : ∀ other, (next.table? other).isSome = (memory.table? other).isSome
  /-- The processor uses the same space. -/
  active_eq : next.active = memory.active

/-- Nothing may have changed outside a space. -/
theorem SameOutside.refl (handle : SpaceHandle) (memory : Memory) :
    SameOutside handle memory memory :=
  ⟨fun _ _ => rfl, fun _ => rfl, rfl⟩

/-- Changes of the same space add up to a change of that space. -/
theorem SameOutside.trans {handle : SpaceHandle} {first second third : Memory}
    (before : SameOutside handle first second) (after : SameOutside handle second third) :
    SameOutside handle first third where
  others other different := (after.others other different).trans (before.others other different)
  isSome_eq other := (after.isSome_eq other).trans (before.isSome_eq other)
  active_eq := after.active_eq.trans before.active_eq

/-- Changes of the pool alone change no space. -/
theorem sameOutside_pool (handle : SpaceHandle) (memory : Memory) (pool : FramePool) :
    SameOutside handle memory { memory with pool } :=
  ⟨fun _ _ => rfl, fun _ => rfl, rfl⟩

/-- A replaced table is the one that the space has now. -/
theorem table?_replaced {memory : Memory} {handle : SpaceHandle} {table : PageTable}
    (found : memory.table? handle = some table) (made : PageTable) (pool : FramePool) :
    ({ memory with pool }.putTable handle (some made)).table? handle = some made := by
  -- A space that has a table is in range.
  have inRange := Nat.le_of_lt (index_lt_of_table? found)
  exact (({ memory with pool } : Memory).table?_putTable (some made) inRange handle).trans
    (if_pos rfl)

/-- Replacing the table of a space changes that space only. -/
theorem sameOutside_putTable {memory : Memory} {handle : SpaceHandle} {table : PageTable}
    (found : memory.table? handle = some table) (made : PageTable) (pool : FramePool) :
    SameOutside handle memory ({ memory with pool }.putTable handle (some made)) := by
  -- The handle named a space before and names one now.
  have inRange := Nat.le_of_lt (index_lt_of_table? found)
  have tables := ({ memory with pool } : Memory).table?_putTable (some made) inRange
  refine ⟨fun other different => ?_, fun other => ?_, active_putTable _ _ _⟩ <;> rw [tables]
  · rw [if_neg different]
    rfl
  · split
    · rename_i same
      rw [same, found]
      rfl
    · rfl

variable {memory next : Memory} {handle : SpaceHandle} {va : Address} {frame : FrameNumber}
  {flags : PageFlags}

/-- A frame is mapped only at a page of user memory, in the table of an existing space. -/
theorem map_ok_spec (mapped : memory.map handle va frame flags = (.ok (), next)) :
    ∃ table made pool, isAligned va = true ∧ va < userTop ∧ memory.table? handle = some table ∧
      table.insert memory.pool va frame flags = (.ok made, pool) ∧
      next = { memory with pool }.putTable handle (some made) := by
  -- Four checks come before the entry; passing them all is the only way to succeed.
  simp only [map] at mapped
  split at mapped
  · simp at mapped
  · rename_i aligned
    split at mapped
    · simp at mapped
    · rename_i below
      split at mapped
      · simp at mapped
      · rename_i table found
        split at mapped
        · simp at mapped
        · rename_i made pool inserted
          simp only [Prod.mk.injEq] at mapped
          exact ⟨table, made, pool, by simpa using aligned, UInt32.not_le.mp below, found, inserted,
            mapped.2.symm⟩

/-- A mapping that fails changes at most the pool, and that only by trying to allocate. -/
theorem map_error_spec {error : SpaceError}
    (refused : memory.map handle va frame flags = (.error error, next)) :
    ∃ pool, next = { memory with pool } ∧ (pool = memory.pool ∨ ∃ table cause,
      memory.table? handle = some table ∧
        table.insert memory.pool va frame flags = (.error cause, pool)) := by
  -- Refused addresses and handles change nothing; a failed insertion may have used the pool.
  simp only [map] at refused
  split at refused
  · simp only [Prod.mk.injEq] at refused
    exact ⟨memory.pool, refused.2.symm, .inl rfl⟩
  · split at refused
    · simp only [Prod.mk.injEq] at refused
      exact ⟨memory.pool, refused.2.symm, .inl rfl⟩
    · split at refused
      · simp only [Prod.mk.injEq] at refused
        exact ⟨memory.pool, refused.2.symm, .inl rfl⟩
      · rename_i table found
        split at refused
        · rename_i cause pool inserted
          simp only [Prod.mk.injEq] at refused
          exact ⟨pool, refused.2.symm, .inr ⟨table, cause, found, inserted⟩⟩
        · simp at refused

/-- Mapping a frame changes one space only. -/
theorem sameOutside_map (memory : Memory) (handle : SpaceHandle) (va : Address)
    (frame : FrameNumber) (flags : PageFlags) :
    SameOutside handle memory (memory.map handle va frame flags).2 := by
  -- Success replaces one table, and failure touches the pool only.
  cases outcome : memory.map handle va frame flags with
  | mk result next =>
    cases result with
    | ok =>
      obtain ⟨table, made, pool, -, -, found, -, rfl⟩ := map_ok_spec outcome
      exact sameOutside_putTable found made pool
    | error =>
      obtain ⟨pool, rfl, -⟩ := map_error_spec outcome
      exact sameOutside_pool handle memory pool

/-- A mapped frame is found at all addresses of its page, and no other address changes. -/
theorem entryAt?_map (mapped : memory.map handle va frame flags = (.ok (), next))
    (other : Address) : next.entryAt? handle other =
      if pageNumber other = pageNumber va then some { frame, flags := flags ||| .present }
      else memory.entryAt? handle other := by
  -- The mapping has put a longer table in the place of the old one.
  obtain ⟨table, made, pool, -, -, found, inserted, rfl⟩ := map_ok_spec mapped
  rw [entryAt?, table?_replaced found, Option.bind_some, PageTable.entryAt?_insert inserted,
    entryAt?, found, Option.bind_some]

/-- Removing a mapping from an existing space puts the shorter table in its place. -/
theorem unmap_spec {table : PageTable} (found : memory.table? handle = some table)
    (va : Address) : memory.unmap handle va =
      (.ok (), { memory with pool := (table.remove memory.pool va).2 }.putTable handle
        (some (table.remove memory.pool va).1)) := by
  -- An existing space is the only case in which a table is touched.
  simp [unmap, found]

/-- Removing a mapping leaves the space with all its page tables. -/
theorem table?_unmap {table : PageTable} (found : memory.table? handle = some table)
    (va : Address) : ∃ left, (memory.unmap handle va).2.table? handle = some left ∧
      left.tables = table.tables := by
  -- Only the entry goes, and its page table stays.
  refine ⟨_, ?_, (table.remove_tables memory.pool va).1⟩
  rw [unmap_spec found, table?_replaced found]

/-- Removing a mapping changes one space only. -/
theorem sameOutside_unmap (memory : Memory) (handle : SpaceHandle) (va : Address) :
    SameOutside handle memory (memory.unmap handle va).2 := by
  -- Without a space there is nothing to remove.
  cases found : memory.table? handle with
  | none =>
    simp only [unmap, found]
    exact .refl handle memory
  | some table =>
    rw [unmap_spec found]
    exact sameOutside_putTable found _ _

/-- A removed mapping is found at no address of its page, and no other address changes. -/
theorem entryAt?_unmap {table : PageTable} (found : memory.table? handle = some table)
    (va other : Address) : (memory.unmap handle va).2.entryAt? handle other =
      if pageNumber other = pageNumber va then none else memory.entryAt? handle other := by
  -- The space has the shorter table now.
  rw [unmap_spec found, entryAt?, table?_replaced found, Option.bind_some,
    PageTable.entryAt?_remove, entryAt?, found, Option.bind_some]

namespace Sound

variable {size : Nat} {held rest : Multiset FrameNumber} {table : PageTable}

/-- In a memory that is sound, the accounts name one space's frames and those of all others. -/
theorem accounted_at (sound : memory.Sound size held)
    (inRange : handle.index ≤ memory.spaces.size) :
    memory.pool.Accounted size
      (((memory.table? handle).map fun table => (table.ownFrames : Multiset FrameNumber)).getD 0 +
        (memory.putTable handle none).ownFrames)
      (((memory.table? handle).map fun table => (table.leaves : Multiset FrameNumber)).getD 0 +
        (memory.putTable handle none).leaves) held := by
  -- The sum over all spaces is the share of this one and the sum over the others.
  have accounted := sound.accounted
  rwa [ownFrames, leaves, memory.total_eq_add _ inRange, memory.total_eq_add _ inRange]
    at accounted

/-- A space can be given another sound table if the accounts follow. -/
theorem replace (sound : memory.Sound size held) (inRange : handle.index ≤ memory.spaces.size)
    {made : Option PageTable} (spaces : next.spaces = (memory.putTable handle made).spaces)
    (accounted : next.pool.Accounted size
      ((made.map fun table => (table.ownFrames : Multiset FrameNumber)).getD 0 +
        (memory.putTable handle none).ownFrames)
      ((made.map fun table => (table.leaves : Multiset FrameNumber)).getD 0 +
        (memory.putTable handle none).leaves) rest)
    (madeSound : ∀ table, made = some table → table.Sound) : next.Sound size rest := by
  -- The sums over the new spaces are the handle's new share and the shares of the others.
  refine ⟨?_, fun other table found => ?_⟩
  · rw [ownFrames, leaves, total_congr _ _ spaces, total_congr _ _ spaces,
      total_putTable _ _ made inRange, total_putTable _ _ made inRange]
    exact accounted
  · have moved : (memory.putTable handle made).table? other = some table := by
      rw [← found, table?, table?, spaces]
    rw [table?_putTable _ made inRange] at moved
    split at moved
    · exact madeSound table moved
    · exact sound.tables other table moved

/-- Memory stays sound when only the pool changes and its accounts stay right. -/
theorem setPool (sound : memory.Sound size held) {pool : FramePool}
    (accounted : pool.Accounted size memory.ownFrames memory.leaves rest) :
    ({ memory with pool } : Memory).Sound size rest :=
  ⟨accounted, sound.tables⟩

/-- It makes no difference to the accounts which space is in use. -/
theorem activate (sound : memory.Sound size held) (active : Option SpaceHandle) :
    (memory.activate active).Sound size held :=
  ⟨sound.accounted, sound.tables⟩

/-- A forced failure changes no account. -/
theorem forceFailure (sound : memory.Sound size held) : memory.forceFailure.Sound size held :=
  sound.setPool ⟨sound.accounted.balanced.setFailNext true, sound.accounted.own_nodup,
    sound.accounted.own_disjoint⟩

/-- A new space takes its directory's frame. -/
theorem createSpace_ok (sound : memory.Sound size held)
    (created : memory.createSpace = (.ok handle, next)) : next.Sound size held := by
  -- The handle named nothing, so the new table's frames are all that is added.
  obtain ⟨inRange, vacant⟩ := memory.vacantHandle_spec
  simp only [createSpace] at created
  split at created
  · simp at created
  · rename_i made pool made_eq
    simp only [Prod.mk.injEq, Except.ok.injEq] at created
    obtain ⟨rfl, rfl⟩ := created
    have accounted := sound.accounted_at inRange
    rw [vacant, Option.map_none, Option.getD_none, zero_add, Option.map_none, Option.getD_none,
      zero_add] at accounted
    obtain ⟨accounted, empty, madeSound⟩ := PageTable.create_ok accounted made_eq
    refine sound.replace inRange (spaces_putTable memory _ _ pool memory.active) ?_ ?_
    · simpa [empty] using accounted
    · simpa using madeSound

/-- A space that cannot be created costs nothing. -/
theorem createSpace_error (sound : memory.Sound size held) {error : SpaceError}
    (refused : memory.createSpace = (.error error, next)) : next.Sound size held := by
  -- Only the directory's allocation can fail.
  simp only [createSpace] at refused
  split at refused
  · rename_i failure pool refused_eq
    simp only [Prod.mk.injEq] at refused
    exact refused.2 ▸ sound.setPool (PageTable.create_error sound.accounted refused_eq)
  · simp at refused

/-- A destroyed space gives back every reference it held. -/
theorem destroySpace (sound : memory.Sound size held) (handle : SpaceHandle) :
    (memory.destroySpace handle).2.Sound size held := by
  -- The handle's share of the accounts is released, and the shares of the others remain.
  simp only [Memory.destroySpace]
  split
  · exact sound
  · rename_i table found
    have inRange := Nat.le_of_lt (index_lt_of_table? found)
    have accounted := sound.accounted_at inRange
    rw [found] at accounted
    refine sound.replace inRange (spaces_putTable memory _ none _ _) ?_ (by simp)
    simpa using PageTable.release_accounted accounted

/-- To map a frame keeps memory sound, if the frame may take one more reference. -/
theorem map_ok (sound : memory.Sound size held)
    (mappable : FramePool.Accounted.Mappable memory.leaves frame held rest)
    (mapped : memory.map handle va frame flags = (.ok (), next)) : next.Sound size rest := by
  -- Split off the share of the handle, to which the law of a single table applies.
  obtain ⟨table, made, pool, -, below, found, inserted, rfl⟩ := map_ok_spec mapped
  have inRange := Nat.le_of_lt (index_lt_of_table? found)
  have accounted := sound.accounted_at inRange
  rw [leaves, memory.total_eq_add _ inRange, found] at mappable
  rw [found] at accounted
  refine sound.replace inRange (spaces_putTable memory _ _ pool memory.active) ?_ ?_
  · simpa using PageTable.insert_accounted accounted mappable inserted
  · rintro _ ⟨⟩
    exact (sound.tables handle table found).insert below inserted

/-- A mapping that fails keeps the accounts, and leaves the frame in whatever hands it was. -/
theorem map_error (sound : memory.Sound size held) {error : SpaceError}
    (refused : memory.map handle va frame flags = (.error error, next)) :
    next.Sound size held := by
  -- Either nothing was tried, or one table failed to take the entry.
  obtain ⟨pool, rfl, same | ⟨table, cause, found, inserted⟩⟩ := map_error_spec refused
  · exact sound.setPool (same ▸ sound.accounted)
  · have inRange := Nat.le_of_lt (index_lt_of_table? found)
    have accounted := sound.accounted_at inRange
    rw [found] at accounted
    refine sound.setPool ?_
    rw [ownFrames, leaves, memory.total_eq_add _ inRange, memory.total_eq_add _ inRange, found]
    exact PageTable.insert_error accounted inserted

/-- Mapping a frame that is mapped elsewhere keeps the accounts, whether it succeeds or not. -/
theorem map_shared (sound : memory.Sound size held) (member : frame ∈ memory.leaves)
    (room : memory.leaves.card + 1 < addressCount) (handle : SpaceHandle) (va : Address)
    (flags : PageFlags) : (memory.map handle va frame flags).2.Sound size held := by
  -- Both outcomes keep the accounts, for different reasons.
  cases outcome : memory.map handle va frame flags with
  | mk result next =>
    cases result with
    | ok => exact sound.map_ok (.inr ⟨rfl, member, room⟩) outcome
    | error error => exact sound.map_error outcome

/-- Removing a mapping drops one reference. -/
theorem unmap (sound : memory.Sound size held) (handle : SpaceHandle) (va : Address) :
    (memory.unmap handle va).2.Sound size held := by
  -- Page tables stay where they are, so only the leaves of one space get fewer.
  cases found : memory.table? handle with
  | none => simpa only [Memory.unmap, found] using sound
  | some table =>
    have inRange := Nat.le_of_lt (index_lt_of_table? found)
    have accounted := sound.accounted_at inRange
    obtain ⟨tables, directory⟩ := table.remove_tables memory.pool va
    rw [found] at accounted
    rw [unmap_spec found]
    refine sound.replace inRange (spaces_putTable memory _ _ _ memory.active) ?_ ?_
    · simpa [PageTable.ownFrames, tables, directory] using PageTable.remove_accounted accounted
    · rintro _ ⟨⟩
      exact (sound.tables handle table found).remove memory.pool va

/-- Mapping a fresh page keeps the accounts, whether it succeeds or not. -/
theorem mapFresh (sound : memory.Sound size held) (handle : SpaceHandle) (va : Address)
    (flags : PageFlags) : (memory.mapFresh handle va flags).2.Sound size held := by
  -- The new frame is in hand until it is mapped.
  simp only [Memory.mapFresh, allocFrame]
  cases allocated : memory.pool.alloc with
  | mk result pool =>
    cases result with
    | error error => exact sound.setPool (sound.accounted.alloc_error allocated)
    | ok frame =>
      have holding := sound.setPool (sound.accounted.alloc_ok allocated)
      dsimp only
      cases mapped : Memory.map { memory with pool } handle va frame flags with
      | mk result next =>
        cases result with
        | ok => exact holding.map_ok (.inl rfl) mapped
        | error error =>
          -- The frame is still in hand, so it goes back.
          have refused := holding.map_error mapped
          exact refused.setPool refused.accounted.release

/-- Writing bytes touches no account. -/
theorem copyOut (sound : memory.Sound size held) (handle : SpaceHandle) (va : Address)
    (bytes : List UInt8) : (memory.copyOut handle va bytes).2.Sound size held := by
  -- Induct on the bytes: each is written to a page and changes no counter.
  fun_induction Memory.copyOut memory handle va bytes with
  | case1 => exact sound
  | case2 => exact sound
  | case3 memory va byte rest entry found pool ih =>
    exact ih (sound.setPool (sound.accounted.modify_page entry.frame fun _ => rfl))

end Sound

/-- Writing bytes changes no space. -/
theorem spaces_copyOut (memory : Memory) (handle : SpaceHandle) (va : Address)
    (bytes : List UInt8) : (memory.copyOut handle va bytes).2.spaces = memory.spaces ∧
      (memory.copyOut handle va bytes).2.active = memory.active := by
  -- Induct on the bytes: each of them changes a frame and no space.
  fun_induction Memory.copyOut memory handle va bytes with
  | case1 => exact ⟨rfl, rfl⟩
  | case2 => exact ⟨rfl, rfl⟩
  | case3 memory va byte rest entry found pool ih => exact ih

/-- Spaces are the same when the tables behind all handles are. -/
theorem table?_congr (same : next.spaces = memory.spaces) (handle : SpaceHandle) :
    next.table? handle = memory.table? handle := by
  -- A table is looked up in the spaces and nowhere else.
  rw [table?, table?, same]

/-- Writing bytes changes neither the entries of a space nor which spaces exist. -/
theorem sameOutside_copyOut (memory : Memory) (handle target : SpaceHandle) (va : Address)
    (bytes : List UInt8) : SameOutside handle memory (memory.copyOut target va bytes).2 := by
  -- All tables are looked up in spaces that are the same.
  obtain ⟨spaces, active⟩ := memory.spaces_copyOut target va bytes
  exact ⟨fun other _ => table?_congr spaces other,
    fun other => by rw [table?_congr spaces other], active⟩

/-- Mapping a fresh page changes one space only. -/
theorem sameOutside_mapFresh (memory : Memory) (handle : SpaceHandle) (va : Address)
    (flags : PageFlags) : SameOutside handle memory (memory.mapFresh handle va flags).2 := by
  -- Allocating, mapping and giving back each change one space at most.
  simp only [mapFresh, allocFrame]
  cases memory.pool.alloc with
  | mk result pool =>
    cases result with
    | error error => exact sameOutside_pool handle memory pool
    | ok frame =>
      have mapped := (sameOutside_pool handle memory pool).trans
        (sameOutside_map { memory with pool } handle va frame flags)
      dsimp only at mapped ⊢
      generalize Memory.map { memory with pool } handle va frame flags = outcome at mapped ⊢
      obtain ⟨result | result, after⟩ := outcome
      · exact mapped.trans (sameOutside_pool handle after _)
      · exact mapped

/-- A page that an address is mapped to is one of the leaves. -/
theorem mem_leaves {entry : PageEntry} (found : memory.entryAt? handle va = some entry) :
    entry.frame ∈ memory.leaves := by
  -- The entry stands in one table, and that table's leaves are among all leaves.
  obtain ⟨table, exists_, entry_eq⟩ := Option.bind_eq_some_iff.mp found
  have inRange := Nat.le_of_lt (index_lt_of_table? exists_)
  rw [leaves, memory.total_eq_add _ inRange, exists_]
  exact Multiset.mem_add.mpr (.inl (Multiset.mem_coe.mpr (PageTable.mem_leaves entry_eq)))

namespace Sound

variable {size : Nat} {held : Multiset FrameNumber}

/-- A mapping is one of the references that a frame's counter counts. -/
theorem refs_pos (sound : memory.Sound size held) {entry : PageEntry}
    (found : memory.entryAt? handle va = some entry) : 0 < memory.pool.refs entry.frame := by
  -- The counter is what all spaces add up to, and this entry is among it.
  rw [sound.accounted.balanced.refs_eq, Multiset.count_pos]
  exact Multiset.mem_add.mpr (.inr (mem_leaves found))

/-- A frame that is referenced is not free. -/
theorem not_mem_free (sound : memory.Sound size 0) (referenced : 0 < memory.pool.refs frame) :
    frame ∉ memory.pool.free := by
  -- The free list has the frames without references and no others.
  intro listed
  have counted := sound.accounted.balanced.count_free frame
  rw [if_neg (by omega)] at counted
  exact List.count_eq_zero.mp counted listed

/-- A mapped frame is not free. -/
theorem not_mem_free_of_entry (sound : memory.Sound size 0) {entry : PageEntry}
    (found : memory.entryAt? handle va = some entry) : entry.frame ∉ memory.pool.free :=
  sound.not_mem_free (sound.refs_pos found)

/-- A page that is mapped has its page table. -/
theorem tableIndex_isSome (sound : memory.Sound size held) {table : PageTable} {entry : PageEntry}
    (found : memory.table? handle = some table)
    (mapped : memory.entryAt? handle va = some entry) :
    (table.tables.find? (tableIndex va)).isSome = true := by
  -- The entry stands in the table of the space, and there the law of a single table applies.
  rw [entryAt?, found, Option.bind_some] at mapped
  exact (sound.tables handle table found).tableIndex_isSome mapped

/-- Where the page table is missing, no page is mapped. -/
theorem entryAt?_of_missing (sound : memory.Sound size held) {table : PageTable}
    (found : memory.table? handle = some table)
    (absent : table.tables.find? (tableIndex va) = none) : memory.entryAt? handle va = none := by
  -- A page that was mapped would have its page table.
  by_contra mapped
  obtain ⟨entry, entry_eq⟩ := Option.ne_none_iff_exists'.mp mapped
  have present := sound.tableIndex_isSome found entry_eq
  simp [absent] at present

end Sound

/-- A new space has a handle that named nothing, and all others stay. -/
theorem createSpace_ok_spec (created : memory.createSpace = (.ok handle, next)) :
    memory.table? handle = none ∧ (next.table? handle).isSome ∧
      (∀ other, other ≠ handle → next.table? other = memory.table? other) ∧
      next.active = memory.active := by
  -- The vacant handle gets the new table and no other handle moves.
  obtain ⟨inRange, vacant⟩ := memory.vacantHandle_spec
  simp only [createSpace] at created
  split at created
  · simp at created
  · rename_i made pool made_eq
    simp only [Prod.mk.injEq, Except.ok.injEq] at created
    obtain ⟨rfl, rfl⟩ := created
    have tables := ({ memory with pool } : Memory).table?_putTable (some made) inRange
    refine ⟨vacant, ?_, fun other different => ?_, active_putTable _ _ _⟩
    · rw [tables, if_pos rfl]
      rfl
    · rw [tables, if_neg different]
      rfl

/-- A space that cannot be created changes at most the pool. -/
theorem createSpace_error_spec {error : SpaceError}
    (refused : memory.createSpace = (.error error, next)) :
    next.spaces = memory.spaces ∧ next.active = memory.active := by
  -- A failed allocation returns before any handle is touched.
  simp only [createSpace] at refused
  split at refused
  · simp only [Prod.mk.injEq] at refused
    exact refused.2 ▸ ⟨rfl, rfl⟩
  · simp at refused

/-- Destroying a space removes what its handle names and takes it out of use. -/
theorem destroySpace_spec (memory : Memory) (handle other : SpaceHandle) :
    (memory.destroySpace handle).2.table? other =
      if other = handle then none else memory.table? other := by
  -- A handle that names nothing is left alone, which is the same as clearing it.
  simp only [destroySpace]
  split
  · rename_i absent
    split
    · rename_i same
      exact same ▸ absent
    · rfl
  · rename_i table found
    rw [table?_congr (spaces_putTable memory handle none _ _)]
    exact table?_putTable memory none (Nat.le_of_lt (index_lt_of_table? found)) other

/-- A space that is not in use stays so, and one that goes is not in use. -/
theorem active_destroySpace (memory : Memory) {handle : SpaceHandle}
    (unused : memory.active ≠ some handle) :
    (memory.destroySpace handle).2.active = memory.active := by
  -- Only the space in use is taken out of use.
  simp only [destroySpace]
  split
  · rfl
  · rw [active_putTable, if_neg unused]

/-- A memory without spaces is sound. -/
theorem sound_ofFrames (count : Nat) : (ofFrames count).Sound (FramePool.listed count) 0 where
  accounted :=
    { balanced := by
        simpa [ofFrames, ownFrames, leaves, total] using FramePool.balanced_ofCount count
      own_nodup := by simp [ofFrames, ownFrames, total]
      own_disjoint := by simp [ofFrames, ownFrames, total] }
  tables handle table found := by simp [ofFrames, table?] at found

/-- Each space has at most one mapping for every page of user memory. -/
theorem Sound.card_leaves_le {size : Nat} {held : Multiset FrameNumber}
    (sound : memory.Sound size held) :
    memory.leaves.card ≤ memory.spaceCount * userPageCount := by
  -- Bound the number of leaves space by space.
  rw [leaves, total, Multiset.card_sum, spaceCount, total, Finset.sum_mul]
  refine Finset.sum_le_sum fun index _ => ?_
  cases found : memory.table? ⟨index⟩ with
  | none => simp
  | some table => simpa using (sound.tables _ table found).length_leaves_le

end Exokernel.Memory
