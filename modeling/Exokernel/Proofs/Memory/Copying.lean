import Exokernel.Proofs.Memory.References
import Exokernel.Proofs.Memory.Refusals

/-! One page gets a copy of its own, by way of the copy page; the old frame loses a reference. -/

namespace Exokernel

/-- Pages with the same bytes are the same. -/
theorem Page.eq_of_byteAt {page other : Page}
    (same : ∀ offset < pageLength, page.byteAt offset = other.byteAt offset) : page = other := by
  -- A page has as many bytes as there are offsets.
  refine Vector.ext fun offset inside => ?_
  have byte := same offset inside
  simpa [Page.byteAt, Vector.get_eq_getElem, Nat.mod_eq_of_lt inside] using byte

namespace Memory

variable {memory next : Memory} {space : SpaceHandle} {page : Address} {old : PageEntry}
  {frame : FrameNumber} {size : Nat}

/-- A page is copied to a fresh frame at the copy page, which then takes the old one's place. -/
inductive Copies (memory : Memory) (space : SpaceHandle) (page : Address) : Memory → Prop where
  | intro {fresh copied placed : Memory} {entry : PageEntry}
      (made : memory.mapFresh space copyPage .readWrite = (.ok (), fresh))
      (written : fresh.copyOut space copyPage
        ((addressRange page pageLength).map (fresh.byteAt space)) = (.ok (), copied))
      (offered : copied.entryAt? space copyPage = some entry)
      (moved : copied.map space page entry.frame .readWrite = (.ok (), placed)) :
      Copies memory space page (placed.unmap space copyPage).2

/-- A frame has given one reference up, to a frame that was free. -/
structure Exchanges (memory next : Memory) (old new : FrameNumber) : Prop where
  /-- One leaf is another frame now. -/
  leaves_eq : next.leaves + {old} = new ::ₘ memory.leaves
  /-- Page tables took at most a free frame. -/
  taken : TakesAtMost memory.pool.free memory.ownFrames next.ownFrames
  /-- The new frame was free. -/
  free : new ∈ memory.pool.free
  /-- The old one was mapped. -/
  used : old ∈ memory.leaves

namespace Exchanges

variable {new : FrameNumber} (exchanges : Exchanges memory next frame new)
  (sound : memory.Sound size 0)
include exchanges sound

/-- The new frame is not the old one. -/
theorem ne : new ≠ frame := by
  -- A free frame is mapped nowhere, and the old one is.
  rintro rfl
  exact (sound.not_mem_leaves_of_free exchanges.free).1 exchanges.used

/-- The new frame has the one reference that it got. -/
theorem refs_new {frames : Nat} (after : next.Sound frames 0) : next.pool.refs new = 1 := by
  -- Counted among the mapped frames: none before, since it was free, and one after.
  have before := Multiset.count_eq_zero.mpr (sound.not_mem_leaves_of_free exchanges.free).1
  have counted := congrArg (Multiset.count new) exchanges.leaves_eq
  rw [Multiset.count_add, Multiset.count_cons_self, before,
    Multiset.count_singleton, if_neg (exchanges.ne sound)] at counted
  have member : new ∈ next.leaves := Multiset.count_pos.mp (by omega)
  rw [after.refs_of_leaf member]
  omega

/-- A frame that was in use has become no part of a page table. -/
theorem not_mem_ownFrames (unmapped : frame ∈ memory.leaves) : frame ∉ next.ownFrames := by
  have before : frame ∉ memory.ownFrames := fun own =>
    Multiset.disjoint_left.mp sound.accounted.own_disjoint own unmapped
  -- The frame of a new page table was free, and the old frame was not.
  rcases exchanges.taken with same | ⟨taken, free, more⟩
  · rwa [same]
  · rw [more, Multiset.mem_cons, not_or]
    refine ⟨?_, before⟩
    rintro rfl
    exact (sound.not_mem_leaves_of_free free).1 unmapped

/-- The old frame has one reference less. -/
theorem refs_old {frames : Nat} (after : next.Sound frames 0) :
    next.pool.refs frame + 1 = memory.pool.refs frame := by
  have notOwn := Multiset.count_eq_zero.mpr (exchanges.not_mem_ownFrames sound exchanges.used)
  -- It is mapped once less than before, and nothing else counts for it.
  have counted := congrArg (Multiset.count frame) exchanges.leaves_eq
  rw [Multiset.count_add, Multiset.count_singleton_self,
    Multiset.count_cons_of_ne (Ne.symm (exchanges.ne sound))] at counted
  rw [sound.refs_of_leaf exchanges.used, after.accounted.balanced.refs_eq, Multiset.count_add,
    notOwn]
  omega

end Exchanges

/-- A page of a space has a private copy of what it had, and nothing else is mapped differently. -/
structure CopiedApart (memory next : Memory) (space : SpaceHandle) (page : Address)
    (old new : FrameNumber) : Prop where
  /-- The page has the new frame in place of the old one. -/
  installs : Installs memory next space page (some { frame := new, flags := .readWrite })
  /-- The one has given a reference to the other. -/
  exchanges : Exchanges memory next old new
  /-- The new frame has the bytes of the old one. -/
  page_eq : next.pool.page new = memory.pool.page old

/-- Copying a page by way of a vacant copy page sets it apart. -/
theorem Copies.copiedApart (copies : Copies memory space page next) (sound : memory.Sound size 0)
    (aligned : isAligned page = true) (vacant : memory.entryAt? space copyPage = none)
    (mapped : memory.entryAt? space page = some old) :
    ∃ new, CopiedApart memory next space page old.frame new := by
  obtain @⟨fresh, copied, placed, entry, made, written, offered, moved⟩ := copies
  have apart : pageNumber page ≠ pageNumber copyPage := by
    intro same
    rw [entryAt?_congr same, vacant] at mapped
    simp at mapped
  -- The sequence of the copy is followed one call at a time.
  have freshSound : fresh.Sound size 0 := by
    have kept := sound.mapFresh space copyPage .readWrite
    rwa [made] at kept
  have copiedSound : copied.Sound size 0 := by
    have kept := freshSound.copyOut space copyPage
      ((addressRange page pageLength).map (fresh.byteAt space))
    rwa [written] at kept
  obtain ⟨installs, free, bytes⟩ := installs_copied sound vacant mapped aligned made written
    freshSound.backed offered (copiedSound.not_mem_free_of_entry offered) moved
  have entries := fresh.entryAt?_copyOut space copyPage
    ((addressRange page pageLength).map (fresh.byteAt space))
  obtain ⟨leaves, ownFrames⟩ := fresh.references_copyOut space copyPage
    ((addressRange page pageLength).map (fresh.byteAt space))
  rw [written] at entries leaves ownFrames
  -- The page keeps its old frame until the new one is moved there.
  have still : copied.entryAt? space page = some old := by
    obtain ⟨new, -, making⟩ := installs_mapFresh made
    rw [entries, making.entryAt?_eq (.inr apart), mapped]
  have freshEntry : fresh.entryAt? space copyPage = some entry := by rw [← entries, offered]
  have atCopyPage : placed.entryAt? space copyPage = some entry := by
    rw [entryAt?_map moved, if_neg (Ne.symm apart), offered]
  refine ⟨entry.frame, installs, ⟨?_, ?_, free, mem_leaves mapped⟩, ?_⟩
  · -- The copy page takes a leaf and gives it back, and in between the page changes its own.
    have first := leaves_mapFresh made freshEntry
    have second := leaves_map moved
    have third := placed.leaves_unmap space copyPage
    rw [frameAt_of_none vacant, add_zero] at first
    rw [frameAt_of_some still, leaves, first] at second
    rw [frameAt_of_some atCopyPage] at third
    refine add_right_cancel (b := ({entry.frame} : Multiset FrameNumber)) ?_
    rw [add_right_comm, third, second, Multiset.cons_add, add_comm memory.leaves,
      Multiset.singleton_add]
  · rw [ownFrames_unmap, copiedSound.ownFrames_map still moved, ownFrames]
    exact ownFrames_mapFresh made
  · refine Page.eq_of_byteAt fun offset inside => ?_
    -- Every byte of the frame is at some address of the page.
    have here : pageNumber (page + UInt32.ofNat offset) = pageNumber page :=
      pageNumber_add_offset aligned inside
    have same := bytes (page + UInt32.ofNat offset) here
    rw [byteAt_of_entry ((installs.here _).trans (if_pos here)),
      byteAt_of_entry ((entryAt?_congr here).trans mapped), add_offset_mod aligned inside] at same
    exact same

/-- A copy leaves the copy page vacant and its frame at the page, and all other entries as found. -/
theorem Copies.entryAt?_eq (copies : Copies memory space page next) : ∃ new, ∀ handle va,
    next.entryAt? handle va =
      if handle = space then
        if pageNumber va = pageNumber copyPage then none
        else if pageNumber va = pageNumber page then some { frame := new, flags := .readWrite }
        else memory.entryAt? handle va
      else memory.entryAt? handle va := by
  obtain @⟨fresh, copied, placed, entry, made, written, offered, moved⟩ := copies
  have readWrite : PageFlags.readWrite ||| .present = .readWrite := by decide
  obtain ⟨new, -, making⟩ := installs_mapFresh made
  have entries := fresh.entryAt?_copyOut space copyPage
    ((addressRange page pageLength).map (fresh.byteAt space))
  rw [written] at entries
  have placing := installs_map moved
  have exists_ : (placed.table? space).isSome = true := by
    obtain ⟨table, named, -⟩ :=
      Option.bind_eq_some_iff.mp ((placing.here page).trans (if_pos rfl))
    rw [named]
    rfl
  have taking := installs_unmap exists_ copyPage
  refine ⟨entry.frame, fun handle va => ?_⟩
  by_cases own : handle = space
  · subst own
    rw [if_pos rfl, taking.here, placing.here, entries, making.here, readWrite]
    -- What the copy page held on the way does not matter, since it is taken away in the end.
    split
    · rfl
    · rfl
  · rw [if_neg own, taking.there handle own, placing.there handle own, entries,
      making.there handle own]

/-- Copying keeps permissions within what user code may ask for. -/
theorem Copies.permitted (copies : Copies memory space page next) (permitted : memory.Permitted) :
    next.Permitted := by
  -- The only new entry is that of the copy, which may be written.
  obtain ⟨new, entries⟩ := copies.entryAt?_eq
  intro handle va entry found
  rw [entries] at found
  split at found
  · split at found
    · simp at found
    · split at found
      · obtain rfl := Option.some.inj found
        exact (by decide : PageFlags.readWrite.isUserPermission = true)
      · exact permitted handle va entry found
  · exact permitted handle va entry found

/-- How many pages of a space are marked to be copied before they are written. -/
def copyOnWritePages (memory : Memory) (space : SpaceHandle) : Nat :=
  -- A space that does not exist has no pages.
  match memory.table? space with
  | some table => table.entries.toList.countP fun entry => entry.2.flags.contains .copyOnWrite
  | none => 0

/-- The marked pages, by their numbers. -/
def markedPages (memory : Memory) (space : SpaceHandle) : Finset Word :=
  -- Every page has one number, so that numbers can be counted instead of entries.
  match memory.table? space with
  | some table => table.entries.keysWhere fun entry => entry.flags.contains .copyOnWrite
  | none => ∅

/-- There are as many marked pages as are counted. -/
theorem card_markedPages (memory : Memory) (space : SpaceHandle) :
    (memory.markedPages space).card = memory.copyOnWritePages space := by
  -- The entries of a table have different page numbers.
  unfold markedPages copyOnWritePages
  split
  · exact WordMap.card_keysWhere _ _
  · rfl

/-- An address is on a marked page if its entry has the mark. -/
theorem mem_markedPages {va : Address} : pageNumber va ∈ memory.markedPages space ↔
    ∃ entry, memory.entryAt? space va = some entry ∧
      entry.flags.contains .copyOnWrite = true := by
  -- Page numbers are the keys of a table.
  unfold markedPages entryAt? PageTable.entryAt?
  cases memory.table? space <;> simp

/-- A marked page is the page of some address. -/
theorem exists_of_mem_markedPages (sound : memory.Sound size 0) {key : Word}
    (marked : key ∈ memory.markedPages space) : ∃ va, pageNumber va = key := by
  unfold markedPages at marked
  split at marked
  · rename_i table named
    obtain ⟨entry, found, -⟩ := WordMap.mem_keysWhere.mp marked
    -- A page number of a sound table is small enough to have an address.
    have below := (sound.tables space table named).below key entry found
    refine ⟨key * pageSize, pageNumber_mul ?_⟩
    simp only [userPageCount] at below
    omega
  · simp at marked

/-- As many pages are marked if the same entries are there. -/
theorem copyOnWritePages_congr {frames : Nat} (sound : memory.Sound size 0)
    (after : next.Sound frames 0)
    (entries : ∀ va, next.entryAt? space va = memory.entryAt? space va) :
    next.copyOnWritePages space = memory.copyOnWritePages space := by
  rw [← card_markedPages, ← card_markedPages]
  congr 1
  -- Whether a page is marked shows in its entry, on either side.
  refine Finset.Subset.antisymm (fun key marked => ?_) fun key marked => ?_
  · obtain ⟨va, rfl⟩ := exists_of_mem_markedPages after marked
    rw [mem_markedPages] at marked ⊢
    rwa [entries] at marked
  · obtain ⟨va, rfl⟩ := exists_of_mem_markedPages sound marked
    rw [mem_markedPages] at marked ⊢
    rwa [entries]

/-- Copying a marked page leaves fewer of them. -/
theorem Copies.copyOnWritePages_lt (copies : Copies memory space page next)
    (after : next.Sound size 0) (mapped : memory.entryAt? space page = some old)
    (marked : old.flags.contains .copyOnWrite = true) :
    next.copyOnWritePages space < memory.copyOnWritePages space := by
  obtain ⟨new, entries⟩ := copies.entryAt?_eq
  have unmarked : ¬PageFlags.readWrite.contains .copyOnWrite = true := by decide
  rw [← card_markedPages, ← card_markedPages]
  refine Finset.card_lt_card
    (Finset.ssubset_iff_subset_ne.mpr ⟨fun key still => ?_, fun same => ?_⟩)
  · -- Whatever is marked now has its old entry.
    obtain ⟨va, rfl⟩ := exists_of_mem_markedPages after still
    rw [mem_markedPages, entries, if_pos rfl] at still
    rw [mem_markedPages]
    split at still
    · simp at still
    · split at still
      · obtain ⟨entry, new, has⟩ := still
        obtain rfl := Option.some.inj new
        exact absurd has unmarked
      · exact still
  · -- The page itself is not marked any more.
    have before : pageNumber page ∈ memory.markedPages space :=
      mem_markedPages.mpr ⟨old, mapped, marked⟩
    rw [← same, mem_markedPages, entries, if_pos rfl, if_pos rfl] at before
    split at before
    · simp at before
    · obtain ⟨entry, found, has⟩ := before
      obtain rfl := Option.some.inj found
      exact absurd has unmarked

end Memory

end Exokernel
