import Exokernel.Proofs.Abi.PageFlags
import Exokernel.Proofs.Memory.Access
import Exokernel.Proofs.Memory.Contents

/-! Where mappings come from, and which frames a step can write to. -/

namespace Exokernel.Memory

/-- A frame is mapped for writing somewhere. -/
def MapsWritable (memory : Memory) (frame : FrameNumber) : Prop :=
  ∃ handle va flags, memory.entryAt? handle va = some { frame, flags } ∧
    flags.contains .writable = true

/-- A frame that no page table maps for writing is mapped so nowhere. -/
theorem not_mapsWritable_of_all {memory : Memory} {frame : FrameNumber}
    (checked : (memory.spaces.all fun space => space.all fun table =>
      table.entries.values.all fun entry =>
        entry.frame != frame || !entry.flags.contains .writable) = true) :
    ¬memory.MapsWritable frame := by
  -- The entry would stand in one of the tables that were looked through.
  rintro ⟨handle, va, flags, found, writes⟩
  obtain ⟨table, named, entry⟩ := Option.bind_eq_some_iff.mp found
  obtain ⟨inside, here⟩ := Array.getElem?_eq_some_iff.mp (Option.join_eq_some_iff.mp named)
  have looked := Array.all_eq_true.mp checked handle.index inside
  rw [here, Option.all_some, List.all_eq_true] at looked
  have passed := looked _ ((table.entries.mem_values_iff _).mpr ⟨pageNumber va, entry⟩)
  simp [writes] at passed

/-- Where an entry of a page table comes from, as seen in the memory before. -/
inductive Derived (memory : Memory) (handle : SpaceHandle) (va : Address) (entry : PageEntry) :
    Prop where
  /-- It was there. -/
  | kept (same : memory.entryAt? handle va = some entry)
  /-- Its frame was free. -/
  | fresh (free : entry.frame ∈ memory.pool.free) (allowed : entry.flags.isUserPermission = true)
  /-- Its frame was mapped somewhere, and for writing if the entry says so. -/
  | shared {source : SpaceHandle} {sourceVa : Address} {held : PageFlags}
      (mapped : memory.entryAt? source sourceVa = some { frame := entry.frame, flags := held })
      (covered : entry.flags.contains .writable = true → held.contains .writable = true)
      (allowed : entry.flags.isUserPermission = true)

/-- A step in which every mapping comes from somewhere, and only writable frames are written to. -/
structure Derives (memory next : Memory) : Prop where
  /-- Each entry is an old one, or of a fresh frame, or shared from an old one. -/
  entries : ∀ handle va entry, next.entryAt? handle va = some entry →
    memory.Derived handle va entry
  /-- A frame that is neither free nor mapped for writing has the same bytes. -/
  pages : ∀ frame, frame ∉ memory.pool.free → ¬memory.MapsWritable frame →
    next.pool.page frame = memory.pool.page frame

/-- Every entry has a permission that user code may ask for. -/
def Permitted (memory : Memory) : Prop :=
  ∀ handle va entry, memory.entryAt? handle va = some entry → entry.flags.isUserPermission = true

variable {memory next : Memory} {handle : SpaceHandle} {va : Address} {frame : FrameNumber}
  {flags : PageFlags}

/-- A frame that is mapped for writing was free or mapped for writing before. -/
theorem Derived.writable {entry : PageEntry} (derived : memory.Derived handle va entry)
    (writes : entry.flags.contains .writable = true) :
    entry.frame ∈ memory.pool.free ∨ memory.MapsWritable entry.frame := by
  -- What is shared for writing was writable where it came from.
  cases derived with
  | kept same => exact .inr ⟨handle, va, entry.flags, same, writes⟩
  | fresh free => exact .inl free
  | shared mapped covered => exact .inr ⟨_, _, _, mapped, covered writes⟩

namespace Derives

/-- Memory derives from itself. -/
theorem refl (memory : Memory) : Derives memory memory :=
  ⟨fun _ _ _ => .kept, fun _ _ _ => rfl⟩

/-- A step that only removes mappings and keeps all bytes can follow. -/
theorem followed (derives : Derives memory next) {last : Memory}
    (entries : ∀ handle va entry, last.entryAt? handle va = some entry →
      next.entryAt? handle va = some entry)
    (pages : ∀ frame, last.pool.page frame = next.pool.page frame) : Derives memory last where
  entries handle va entry found := derives.entries handle va entry (entries handle va entry found)
  pages frame used unwritable := (pages frame).trans (derives.pages frame used unwritable)

/-- A frame in use that nobody may write to stays so, and keeps its bytes. -/
theorem readOnly (derives : Derives memory next) (used : frame ∉ memory.pool.free)
    (unwritable : ¬memory.MapsWritable frame) :
    ¬next.MapsWritable frame ∧ next.pool.page frame = memory.pool.page frame := by
  refine ⟨?_, derives.pages frame used unwritable⟩
  -- A writable mapping of it would have to come from somewhere.
  rintro ⟨handle, va, flags, found, writes⟩
  rcases (derives.entries handle va _ found).writable writes with free | writable
  · exact used free
  · exact unwritable writable

/-- Permissions stay ones that user code may ask for. -/
theorem permitted (derives : Derives memory next) (permitted : memory.Permitted) :
    next.Permitted := by
  intro handle va entry found
  -- Every origin of an entry has a permission that may be asked for.
  cases derives.entries handle va entry found with
  | kept same => exact permitted handle va entry same
  | fresh _ allowed => exact allowed
  | shared _ _ allowed => exact allowed

/-- Removing a mapping. -/
theorem unmap (memory : Memory) (handle : SpaceHandle) (va : Address) :
    Derives memory (memory.unmap handle va).2 := by
  refine (refl memory).followed (fun other place entry found => ?_) (memory.page_unmap handle va)
  -- The one mapping is gone, and every other is the one that it was.
  by_cases same : other = handle
  · subst same
    cases named : memory.table? other with
    | none => simpa only [Memory.unmap, named] using found
    | some table =>
      rw [entryAt?_unmap named] at found
      split at found
      · simp at found
      · exact found
  · rwa [entryAt?, (memory.sameOutside_unmap handle va).others other same] at found

/-- A step that changes one page's entry, if any, and clears at most free frames. -/
theorem ofEntry (outside : SameOutside handle memory next)
    (clears : FramePool.Clears memory.pool next.pool)
    (entries : ∀ other entry, next.entryAt? handle other = some entry →
      memory.Derived handle other entry) : Derives memory next where
  entries other place entry found := by
    -- Entries of other spaces are kept.
    by_cases same : other = handle
    · subst same
      exact entries place entry found
    · rw [entryAt?, outside.others other same, ← entryAt?] at found
      exact .kept found
  pages frame used _ := clears.page_of_used used

/-- Mapping a fresh page. -/
theorem mapFresh (memory : Memory) (handle : SpaceHandle) (va : Address)
    (allowed : flags.isUserPermission = true) :
    Derives memory (memory.mapFresh handle va flags).2 := by
  refine ofEntry (memory.sameOutside_mapFresh handle va flags)
    (memory.clears_mapFresh handle va flags) fun other entry found => ?_
  -- Only the page that is mapped gets another entry, and only if that succeeds.
  cases mapped : memory.mapFresh handle va flags with
  | mk result next =>
    rw [mapped] at found
    cases result with
    | error error =>
      rw [entryAt?, table?_mapFresh_error mapped, ← entryAt?] at found
      exact .kept found
    | ok =>
      obtain ⟨frame, free, -, entries⟩ := mapFresh_ok_spec mapped
      rw [entries] at found
      split at found
      · simp only [Option.some.injEq] at found
        rw [← found, PageFlags.or_present allowed]
        exact .fresh free allowed
      · exact .kept found

/-- Writing to a range that is mapped for writing. -/
theorem copyOut {bytes : List UInt8}
    (writable : ∀ offset < bytes.length, ∀ entry,
      memory.entryAt? handle (va + UInt32.ofNat offset) = some entry →
        entry.flags.contains .writable = true) :
    Derives memory (memory.copyOut handle va bytes).2 where
  entries other place entry found := by
    rw [entryAt?, table?_congr (memory.spaces_copyOut handle va bytes).1, ← entryAt?] at found
    exact .kept found
  pages frame _ unwritable := by
    -- Each byte goes to a frame that is mapped for writing, which this one is not.
    refine page_copyOut fun offset inside entry found => ?_
    rintro rfl
    exact unwritable ⟨handle, _, entry.flags, found, writable offset inside entry found⟩

end Derives

end Exokernel.Memory
