import Exokernel.Proofs.Kernel.Messages

/-! The address spaces are a finite map for each handle: a lookup gives what was mapped last. -/

namespace Exokernel

/-- An operation on the physical memory and its address spaces. -/
inductive MemoryEvent where
  /-- A new address space. -/
  | create
  /-- The end of an address space. -/
  | destroy (handle : SpaceHandle)
  /-- The space to look addresses up in, or none. -/
  | activate (handle : Option SpaceHandle)
  /-- Taking a frame. -/
  | allocate
  /-- Giving back a frame that is not mapped. -/
  | free (frame : FrameNumber)
  /-- Mapping a frame at an address of a space. -/
  | map (handle : SpaceHandle) (va : Address) (frame : FrameNumber) (flags : PageFlags)
  /-- Removing the mapping of the page that holds an address. -/
  | unmap (handle : SpaceHandle) (va : Address)
  /-- Making the next allocation fail. -/
  | forceFailure
  deriving DecidableEq

namespace FramePool

/-- The frame of a mapping that was replaced, if nothing refers to it any more. -/
def freed (pool : FramePool) : Option PageEntry → List FrameNumber
  | some old => if pool.refs old.frame = 0 then [old.frame] else []
  | none => []

/-- A frame that loses a reference is the first free one from then on, if it was its last. -/
theorem free_decref (pool : FramePool) (old : PageEntry) : (pool.decref old.frame).free =
    (pool.decref old.frame).freed (some old) ++ pool.free := by
  -- Being put on the free list changes no counter.
  have counted :
      (pool.decref old.frame).refs old.frame = (pool.lower old.frame).refs old.frame := by
    simp only [decref, release]
    split <;> rfl
  rw [freed, counted]
  simp only [decref, release]
  split <;> rfl

end FramePool

namespace PageTable

variable {pool next : FramePool} {table made : PageTable} {va : Address} {frame : FrameNumber}
  {flags : PageFlags}

/-- A page table that is missing is kept in the first free frame, and one that is there stays. -/
theorem ensureTable_frame (ensured : table.ensureTable pool va = (.ok made, next)) :
    ((table.tables.find? (tableIndex va)).isSome = true ∧ made = table ∧ next = pool) ∨
      (table.tables.find? (tableIndex va) = none ∧ ∃ taken, pool.free = taken :: next.free ∧
        made.tables = table.tables.insert (tableIndex va) taken) := by
  simp only [ensureTable] at ensured
  split at ensured
  · rename_i present found
    simp only [Prod.mk.injEq, Except.ok.injEq] at ensured
    exact .inl ⟨by rw [found]; rfl, ensured.1.symm, ensured.2.symm⟩
  · rename_i missing
    split at ensured
    · simp at ensured
    · rename_i taken pool' allocated
      simp only [Prod.mk.injEq, Except.ok.injEq] at ensured
      obtain ⟨rfl, rfl⟩ := ensured
      -- Only the branch that takes the head of the free list hands out a frame.
      simp only [FramePool.alloc] at allocated
      split at allocated
      · simp at allocated
      · split at allocated
        · simp at allocated
        · rename_i first rest listed
          simp only [Prod.mk.injEq, Except.ok.injEq] at allocated
          obtain ⟨rfl, rfl⟩ := allocated
          exact .inr ⟨missing, first, listed, rfl⟩

/-- Once there is a page table, the frame that was mapped before is the only one to be freed. -/
theorem insert_free (inserted : table.insert pool va frame flags = (.ok made, next)) :
    ∃ ensured left, table.ensureTable pool va = (.ok ensured, left) ∧
      made.tables = ensured.tables ∧ next.free = next.freed (table.entryAt? va) ++ left.free := by
  simp only [insert] at inserted
  split at inserted
  · simp at inserted
  · rename_i ensured left provided
    simp only [Prod.mk.injEq, Except.ok.injEq] at inserted
    obtain ⟨rfl, rfl⟩ := inserted
    refine ⟨ensured, left, provided, rfl, ?_⟩
    -- A page table that was missing has brought no mapping with it.
    have same : table.entryAt? va = ensured.entryAt? va := by
      rw [entryAt?, entryAt?, (ensureTable_ok provided).1]
    rw [same]
    cases ensured.entryAt? va with
    | some old => exact FramePool.free_decref _ old
    | none => rfl

end PageTable

namespace Memory

section Answers

variable {memory next : Memory} {handle : SpaceHandle} {va : Address} {frame : FrameNumber}
  {flags : PageFlags}

/--
What mapping a page answers.

The address is judged before the handle, and both before a frame is asked for.
-/
def mapAnswer (memory : Memory) (handle : SpaceHandle) (va : Address) : Except SpaceError Unit :=
  if ¬isAligned va then .error (.mapping (.unaligned va))
  else if userTop ≤ va then .error (.mapping (.outOfRange va))
  else if memory.table? handle = none then .error .unknownSpace
  -- Without its page table the page needs a frame of its own for it.
  else if memory.tableFrame? handle (tableIndex va) = none ∧ memory.pool.isExhausted then
    .error (.mapping .outOfMemory)
  else .ok ()

/-- A mapping answers what its arguments and the free frames say. -/
theorem map_fst (memory : Memory) (handle : SpaceHandle) (va : Address) (frame : FrameNumber)
    (flags : PageFlags) : (memory.map handle va frame flags).1 = memory.mapAnswer handle va := by
  -- The checks are followed in order, each one with all those before it passed.
  simp only [mapAnswer]
  split
  · rename_i unaligned
    simp [map, unaligned]
  · rename_i aligned
    rw [not_not] at aligned
    split
    · rename_i outside
      simp [map, aligned, outside]
    · rename_i inside
      split
      · rename_i unknown
        simp [map, aligned, inside, unknown]
      · rename_i known
        obtain ⟨table, found⟩ := Option.ne_none_iff_exists'.mp known
        have below := UInt32.not_le.mp inside
        -- Only a page table that is missing needs a frame.
        cases present : table.tables.find? (tableIndex va) with
        | some taken =>
          rw [map_isOk found aligned below (by rw [present]; rfl)]
          simp [tableFrame?, found, present]
        | none =>
          rw [map_of_missing found aligned below present]
          simp [tableFrame?, found, present]

/--
Mapping a page took frames off the free list.

Only the frame that was mapped there before can have been freed by it.
-/
def Takes (memory next : Memory) (handle : SpaceHandle) (va : Address)
    (taken : List FrameNumber) : Prop :=
  -- A page table may be among the frames taken, and comes before the page.
  ∃ rest, memory.pool.free = taken ++ rest ∧
    next.pool.free = next.pool.freed (memory.entryAt? handle va) ++ rest

/-- Mapping a page takes a frame exactly if the page table is missing, which is kept there. -/
theorem takes_map (mapped : memory.map handle va frame flags = (.ok (), next)) :
    ((memory.tableFrame? handle (tableIndex va)).isSome = true ∧ Takes memory next handle va [] ∧
      ∀ index, next.tableFrame? handle index = memory.tableFrame? handle index) ∨
    (memory.tableFrame? handle (tableIndex va) = none ∧ ∃ taken,
      Takes memory next handle va [taken] ∧ ∀ index, next.tableFrame? handle index =
        if index = tableIndex va then some taken else memory.tableFrame? handle index) := by
  -- The page table is there before the entry is put in, and only then a frame may be freed.
  obtain ⟨table, made, pool, -, -, found, inserted, rfl⟩ := map_ok_spec mapped
  obtain ⟨ensured, left, provided, tables, free⟩ := PageTable.insert_free inserted
  simp only [tableFrame?, table?_replaced found, found, Option.bind_some, tables, Takes,
    pool_putTable, entryAt?]
  rcases PageTable.ensureTable_frame provided with
    ⟨present, rfl, rfl⟩ | ⟨missing, taken, listed, added⟩
  · exact .inl ⟨present, ⟨_, rfl, free⟩, fun _ => rfl⟩
  · refine .inr ⟨missing, taken, ⟨left.free, listed, free⟩, fun index => ?_⟩
    rw [added]
    split
    · rename_i same
      rw [same, WordMap.find?_insert_same]
    · rename_i different
      rw [WordMap.find?_insert_other _ _ different]

end Answers

/-- Memory after an operation, whether it succeeds or not. -/
def step (memory : Memory) : MemoryEvent → Memory
  -- Results are dropped: a run goes on after an operation that has failed.
  | .create => memory.createSpace.2
  | .destroy handle => (memory.destroySpace handle).2
  | .activate handle => memory.activate handle
  | .allocate => memory.allocFrame.2
  | .free frame => memory.releaseFrame frame
  | .map handle va frame flags => (memory.map handle va frame flags).2
  | .unmap handle va => (memory.unmap handle va).2
  | .forceFailure => memory.forceFailure

/-- Memory of `count` frames after a run of operations. -/
def after (count : Nat) (events : List MemoryEvent) : Memory :=
  events.foldl step (ofFrames count)

/-- No operation of a run ends something, each one judged in the state that it finds. -/
def Lasts (ends : Memory → MemoryEvent → Prop) : Memory → List MemoryEvent → Prop
  | _, [] => True
  | memory, event :: rest => ¬ends memory event ∧ Lasts ends (memory.step event) rest

/-- Some operation of a run has begun something, and no later one has ended it. -/
def Stands (count : Nat) (events : List MemoryEvent) (begins ends : Memory → MemoryEvent → Prop) :
    Prop :=
  -- The last beginning counts, and what follows it must not end it.
  ∃ before event later, events = before ++ event :: later ∧ begins (after count before) event ∧
    Lasts ends (after count (before ++ [event])) later

section Runs

variable {begins ends : Memory → MemoryEvent → Prop}

/-- A run with one more operation ends where that operation leads. -/
theorem after_append (count : Nat) (events : List MemoryEvent) (event : MemoryEvent) :
    after count (events ++ [event]) = (after count events).step event := by
  -- The operations are folded from the left.
  rw [after, List.foldl_append]
  rfl

/-- What lasts through a run and one more operation lasts through both. -/
theorem lasts_append (memory : Memory) (later : List MemoryEvent) (event : MemoryEvent) :
    Lasts ends memory (later ++ [event]) ↔
      Lasts ends memory later ∧ ¬ends (later.foldl step memory) event := by
  -- Induct on the run, whose first operation leaves the memory for the rest.
  induction later generalizing memory with
  | nil => simp [Lasts]
  | cons first rest ih => simp [Lasts, ih, and_assoc]

/-- Nothing stands before the first operation. -/
theorem not_stands_nil (count : Nat) : ¬Stands count [] begins ends := by
  -- No operation is in an empty run.
  rintro ⟨before, event, later, split, -⟩
  simp at split

/-- After one more operation stands what this one begins, and what stood and is not ended by it. -/
theorem stands_append (count : Nat) (events : List MemoryEvent) (event : MemoryEvent) :
    Stands count (events ++ [event]) begins ends ↔ begins (after count events) event ∨
      (Stands count events begins ends ∧ ¬ends (after count events) event) := by
  constructor
  · rintro ⟨before, first, later, split, begun, lasting⟩
    -- The operation that began it is the last one, or stands before the last one.
    rcases List.eq_nil_or_concat later with rfl | ⟨rest, last, rfl⟩
    · obtain ⟨rfl, same⟩ := List.append_inj' split rfl
      rw [List.singleton_inj] at same
      exact .inl (same ▸ begun)
    · rw [List.concat_eq_append, ← List.cons_append, ← List.append_assoc] at split
      obtain ⟨rfl, same⟩ := List.append_inj' split rfl
      rw [List.singleton_inj] at same
      rw [List.concat_eq_append, lasts_append, ← same] at lasting
      refine .inr ⟨⟨before, first, rest, rfl, begun, lasting.1⟩, ?_⟩
      rw [after, ← List.foldl_append, List.append_assoc] at lasting
      exact lasting.2
  · rintro (begun | ⟨⟨before, first, rest, rfl, begun, lasting⟩, kept⟩)
    · exact ⟨events, event, [], rfl, begun, trivial⟩
    · refine ⟨before, first, rest ++ [event], by simp, begun,
        (lasts_append _ _ _).mpr ⟨lasting, ?_⟩⟩
      rw [after, ← List.foldl_append, List.append_assoc]
      exact kept

/-- What holds after a run is what has begun and was not ended, if each operation makes it so. -/
theorem iff_stands (holds : Memory → Prop) (count : Nat) (initially : ¬holds (ofFrames count))
    (stepped : ∀ memory event,
      holds (memory.step event) ↔ begins memory event ∨ (holds memory ∧ ¬ends memory event))
    (events : List MemoryEvent) :
    holds (after count events) ↔ Stands count events begins ends := by
  -- Induct on the run from its end, so that the last operation is judged in the state before it.
  induction events using List.reverseRecOn with
  | nil => exact iff_of_false initially (not_stands_nil count)
  | append_singleton events event ih => rw [after_append, stepped, stands_append, ih]

end Runs

/-- An operation creates the space that a handle names from then on. -/
def Creates (handle : SpaceHandle) (memory : Memory) : MemoryEvent → Prop
  | .create => memory.createSpace.1 = .ok handle
  | _ => False

/-- An operation is asked to destroy the space that a handle names. -/
def Destroys (handle : SpaceHandle) (_ : Memory) (event : MemoryEvent) : Prop :=
  event = .destroy handle

/-- An operation maps a page of a space, which then has an entry. -/
def Maps (handle : SpaceHandle) (va : Address) (entry : PageEntry) (memory : Memory) :
    MemoryEvent → Prop
  -- A mapping is always present, whatever was asked for.
  | .map target place frame flags =>
    (memory.map target place frame flags).1 = .ok () ∧ target = handle ∧
      pageNumber place = pageNumber va ∧ entry = { frame, flags := flags ||| .present }
  | _ => False

/-- An operation maps a page of a space anew, removes its mapping, or destroys the space. -/
def Replaces (handle : SpaceHandle) (va : Address) (memory : Memory) : MemoryEvent → Prop
  -- Whether there was a mapping to remove makes no difference.
  | .map target place frame flags =>
    (memory.map target place frame flags).1 = .ok () ∧ target = handle ∧
      pageNumber place = pageNumber va
  | .unmap target place => target = handle ∧ pageNumber place = pageNumber va
  | .destroy target => target = handle
  | _ => False

/-- An operation maps a page in the region of a page table. -/
def Reaches (handle : SpaceHandle) (index : Word) (memory : Memory) : MemoryEvent → Prop
  -- Only a mapping that succeeds is sure to leave a page table.
  | .map target place frame flags =>
    (memory.map target place frame flags).1 = .ok () ∧ target = handle ∧ tableIndex place = index
  | _ => False

section Steps

/-- A new space has neither mappings nor page tables. -/
theorem table?_createSpace {memory next : Memory} {handle : SpaceHandle}
    (created : memory.createSpace = (.ok handle, next)) :
    ∃ directory, next.table? handle = some { directory } := by
  simp only [createSpace, PageTable.create] at created
  -- A space begins with the directory that it was given, and with nothing else.
  cases allocated : memory.pool.alloc with
  | mk result pool =>
    rw [allocated] at created
    cases result with
    | error error => simp at created
    | ok directory =>
      simp only [Prod.mk.injEq, Except.ok.injEq] at created
      obtain ⟨rfl, rfl⟩ := created
      have tables := ({ memory with pool := pool.incref directory } : Memory).table?_putTable
        (some { directory }) memory.vacantHandle_spec.1 memory.vacantHandle
      exact ⟨directory, by rw [tables, if_pos rfl]⟩

variable (memory : Memory) (event : MemoryEvent) (handle : SpaceHandle)

/-- A handle names a space from its creation to its destruction. -/
theorem table?_step : ((memory.step event).table? handle).isSome = true ↔
    Creates handle memory event ∨
      ((memory.table? handle).isSome = true ∧ ¬Destroys handle memory event) := by
  -- One case for each operation, and whether it is about this handle or about another one.
  cases event with
  | create =>
    simp only [step, Creates, Destroys, reduceCtorEq, not_false_eq_true, and_true]
    cases outcome : memory.createSpace with
    | mk result next =>
      cases result with
      | error error =>
        have kept := (Intact.createSpace outcome).tables handle
        simp [kept]
      | ok made =>
        obtain ⟨-, named, others, -⟩ := createSpace_ok_spec outcome
        by_cases new : handle = made
        · simp [new, named]
        · simp [others handle new, Ne.symm new]
  | destroy target =>
    rw [step, destroySpace_spec]
    by_cases gone : handle = target
    · simp [gone, Creates, Destroys]
    · simp [gone, Ne.symm gone, Creates, Destroys]
  | map target place frame flags =>
    simp [step, Creates, Destroys, (memory.sameOutside_map target place frame flags).isSome_eq]
  | unmap target place =>
    simp [step, Creates, Destroys, (memory.sameOutside_unmap target place).isSome_eq]
  | activate | allocate | free | forceFailure => simp [Creates, Destroys]; rfl

/-- A page has the entry that it was mapped with until it is mapped anew, removed or destroyed. -/
theorem entryAt?_step (va : Address) (entry : PageEntry) :
    (memory.step event).entryAt? handle va = some entry ↔ Maps handle va entry memory event ∨
      (memory.entryAt? handle va = some entry ∧ ¬Replaces handle va memory event) := by
  -- As before, and then whether it is about this page or about another one.
  cases event with
  | create =>
    simp only [step, Maps, Replaces, not_false_eq_true, and_true, false_or]
    cases outcome : memory.createSpace with
    | mk result next =>
      cases result with
      -- A failure leaves every table as it was.
      | error error => rw [entryAt?, (Intact.createSpace outcome).tables handle, entryAt?]
      | ok made => rw [entryAt?_of_createSpace outcome]
  | destroy target =>
    rw [step, entryAt?, destroySpace_spec, entryAt?]
    by_cases gone : handle = target
    · simp [gone, Maps, Replaces]
    · simp [gone, Ne.symm gone, Maps, Replaces]
  | map target place frame flags =>
    simp only [step, Maps, Replaces]
    cases outcome : memory.map target place frame flags with
    | mk result next =>
      cases result with
      | error error => simp [entryAt?, (Intact.map outcome).tables handle]
      | ok =>
        by_cases same : handle = target
        · subst same
          -- Mapping is about all addresses of one page.
          rw [entryAt?_map outcome]
          by_cases here : pageNumber va = pageNumber place
          · simp [here, eq_comm]
          · simp [here, Ne.symm here]
        · have others := (memory.sameOutside_map target place frame flags).others handle same
          rw [outcome] at others
          simp [entryAt?, others, Ne.symm same]
  | unmap target place =>
    simp only [step, Maps, Replaces, false_or]
    by_cases same : handle = target
    · subst same
      cases found : memory.table? handle with
      | none => simp [unmap, entryAt?, found]
      | some table =>
        rw [entryAt?_unmap found]
        by_cases here : pageNumber va = pageNumber place
        · simp [here]
        · simp [here, Ne.symm here]
    · simp [entryAt?, (memory.sameOutside_unmap target place).others handle same, Ne.symm same]
  | activate | allocate | free | forceFailure => simp [Maps, Replaces]; rfl

/-- A region has a page table from the first mapping there until the space is destroyed. -/
theorem tableFrame?_step (index : Word) :
    ((memory.step event).tableFrame? handle index).isSome = true ↔
      Reaches handle index memory event ∨
        ((memory.tableFrame? handle index).isSome = true ∧ ¬Destroys handle memory event) := by
  -- A page table outlives its last entry, so that removing a mapping changes none.
  cases event with
  | create =>
    simp only [step, Reaches, Destroys, reduceCtorEq, not_false_eq_true, and_true, false_or]
    cases outcome : memory.createSpace with
    | mk result next =>
      cases result with
      | error error => rw [tableFrame?, (Intact.createSpace outcome).tables handle, tableFrame?]
      | ok made =>
        obtain ⟨unused, -, others, -⟩ := createSpace_ok_spec outcome
        by_cases new : handle = made
        · obtain ⟨directory, found⟩ := table?_createSpace outcome
          simp [new, tableFrame?, found, unused]
        · simp [tableFrame?, others handle new]
  | destroy target =>
    rw [step, tableFrame?, destroySpace_spec, tableFrame?]
    by_cases gone : handle = target
    · simp [gone, Reaches, Destroys]
    · simp [gone, Ne.symm gone, Reaches, Destroys]
  | map target place frame flags =>
    simp only [step, Reaches, Destroys, reduceCtorEq, not_false_eq_true, and_true]
    cases outcome : memory.map target place frame flags with
    | mk result next =>
      cases result with
      | error error => simp [tableFrame?, (Intact.map outcome).tables handle]
      | ok =>
        by_cases same : handle = target
        · subst same
          -- Mapping makes the table of the page, unless it was there.
          rcases takes_map outcome with ⟨present, -, kept⟩ | ⟨-, taken, -, added⟩
          · rw [kept]
            by_cases here : tableIndex place = index
            · simp [here, here ▸ present]
            · simp [here]
          · rw [added]
            by_cases here : tableIndex place = index
            · simp [here]
            · simp [here, Ne.symm here]
        · have others := (memory.sameOutside_map target place frame flags).others handle same
          rw [outcome] at others
          simp [tableFrame?, others, Ne.symm same]
  | unmap target place =>
    simp only [step, Reaches, Destroys, reduceCtorEq, not_false_eq_true, and_true, false_or]
    by_cases same : handle = target
    · subst same
      cases found : memory.table? handle with
      | none => simp [unmap, tableFrame?, found]
      | some table =>
        obtain ⟨left, after, tables⟩ := table?_unmap found place
        rw [tableFrame?, after, tableFrame?, found, Option.bind_some, Option.bind_some, tables]
    · simp [tableFrame?, (memory.sameOutside_unmap target place).others handle same]
  | activate | allocate | free | forceFailure => simp [Reaches, Destroys]; rfl

end Steps

/-- After a run of operations the spaces are a finite map for each handle. -/
structure FiniteMaps (count : Nat) (events : List MemoryEvent) : Prop where
  /-- The handles of spaces that were created and not destroyed since name spaces. -/
  spaces : ∀ handle, ((after count events).table? handle).isSome = true ↔
    Stands count events (Creates handle) (Destroys handle)
  /-- A page has the entry that it was mapped with last, unless that mapping went since. -/
  entries : ∀ handle va entry, (after count events).entryAt? handle va = some entry ↔
    Stands count events (Maps handle va entry) (Replaces handle va)
  /-- A new space gets a handle that names no space. -/
  vacant : ∀ handle, (after count events).createSpace.1 = .ok handle →
    (after count events).table? handle = none
  /-- Mapping a page fails for the first reason that applies. -/
  answers : ∀ handle va frame flags, ((after count events).map handle va frame flags).1 =
    (after count events).mapAnswer handle va
  /-- A mapping that fails leaves all lookups, counts and free frames as they were. -/
  refusals : ∀ handle va frame flags error next,
    (after count events).map handle va frame flags = (.error error, next) →
      (after count events).Intact next
  /-- The first mapping in a region takes a frame for the page table. -/
  first : ∀ handle va frame flags next,
    (after count events).map handle va frame flags = (.ok (), next) →
      ¬Stands count events (Reaches handle (tableIndex va)) (Destroys handle) →
        ∃ taken, (after count events).Takes next handle va [taken] ∧
          next.tableFrame? handle (tableIndex va) = some taken
  /-- Any later mapping there takes no frame. -/
  again : ∀ handle va frame flags next,
    (after count events).map handle va frame flags = (.ok (), next) →
      Stands count events (Reaches handle (tableIndex va)) (Destroys handle) →
        (after count events).Takes next handle va [] ∧ ∀ index,
          next.tableFrame? handle index = (after count events).tableFrame? handle index

/--
Address spaces are finite maps, whatever operations were carried out on them.

Nothing is asked of the frames that are mapped or given back, since no lookup, no handle and no
answer depends on what the frames are counted to.
-/
theorem finiteMaps_after (count : Nat) (events : List MemoryEvent) : FiniteMaps count events := by
  -- One law for spaces, page tables and mappings: each stands from what makes it to what ends it.
  have tables (handle : SpaceHandle) (index : Word) :
      ((after count events).tableFrame? handle index).isSome = true ↔
        Stands count events (Reaches handle index) (Destroys handle) :=
    iff_stands (fun memory => (memory.tableFrame? handle index).isSome = true) count
      (by simp [tableFrame?, table?, ofFrames])
      (fun memory event => tableFrame?_step memory event handle index) events
  refine
    { spaces := fun handle => ?_
      entries := fun handle va entry => ?_
      vacant := fun handle created => ?_
      answers := fun handle va frame flags => map_fst _ handle va frame flags
      refusals := fun _ _ _ _ _ _ refused => .map refused
      first := fun handle va frame flags next mapped fresh => ?_
      again := fun handle va frame flags next mapped used => ?_ }
  · exact iff_stands (fun memory => (memory.table? handle).isSome = true) count
      (by simp [table?, ofFrames]) (fun memory event => table?_step memory event handle) events
  · exact iff_stands (fun memory => memory.entryAt? handle va = some entry) count
      (by simp [entryAt?, table?, ofFrames])
      (fun memory event => entryAt?_step memory event handle va entry) events
  · exact (createSpace_ok_spec (Prod.ext created rfl)).1
  · rcases takes_map mapped with ⟨present, -⟩ | ⟨-, taken, takes, added⟩
    · exact absurd ((tables handle _).mp present) fresh
    · exact ⟨taken, takes, (added _).trans (if_pos rfl)⟩
  · rcases takes_map mapped with ⟨-, takes, kept⟩ | ⟨missing, -⟩
    · exact ⟨takes, kept⟩
    · have present := (tables handle _).mpr used
      simp [missing] at present

-- A handle that is given out again does not bring back what it named before.
example : (after 8 [.create, .map ⟨0⟩ 0x800000 1 .user, .destroy ⟨0⟩, .create]).entryAt? ⟨0⟩
    0x800000 = none := by
  decide +kernel

end Memory

end Exokernel
