import Exokernel.Proofs.Abi.PageFlags
import Exokernel.Proofs.Memory.References
import Exokernel.Proofs.Memory.Refusals

/-! The pages of one space are shared with a new one, and what is left when the new one goes. -/

namespace Exokernel

/-- The entry of a page once it is shared. -/
def PageEntry.demoted (entry : PageEntry) : PageEntry :=
  { entry with flags := entry.flags.demoted }

/-- Sharing an entry once more leaves it as it is. -/
theorem PageEntry.demoted_demoted (entry : PageEntry) : entry.demoted.demoted = entry.demoted := by
  -- The frame stays, and the flags are shared already.
  simp [demoted]

/-- All references that a page table makes, to the frames it is kept in and to those it maps. -/
def PageTable.references (table : PageTable) : Multiset FrameNumber :=
  ↑table.ownFrames + ↑table.leaves

namespace Memory

variable {memory now next : Memory} {space child handle : SpaceHandle} {pages : List Word}
  {va : Address} {entry : PageEntry} {frame : FrameNumber} {flags : PageFlags} {size : Nat}

/-- The references that a space makes; none if there is no such space. -/
def referencesOf (memory : Memory) (handle : SpaceHandle) : Multiset FrameNumber :=
  ((memory.table? handle).map PageTable.references).getD 0

/-- All references are those that the spaces make. -/
theorem total_references (memory : Memory) :
    memory.total PageTable.references = memory.ownFrames + memory.leaves := by
  -- Both sums run over the same spaces.
  rw [ownFrames, leaves, total, total, total, ← Finset.sum_add_distrib]
  refine Finset.sum_congr rfl fun index _ => ?_
  cases memory.table? ⟨index⟩ with
  | none => rfl
  | some table => rfl

/-- If every space makes the same references, all references are the same. -/
theorem total_ext (same : ∀ handle, next.referencesOf handle = memory.referencesOf handle) :
    next.total PageTable.references = memory.total PageTable.references := by
  -- Both totals are sums over as many spaces as there ever were.
  rw [total_eq_sum _ _ (Nat.le_max_left next.spaces.size memory.spaces.size),
    total_eq_sum _ _ (Nat.le_max_right next.spaces.size memory.spaces.size)]
  exact Finset.sum_congr rfl fun index _ => same ⟨index⟩

/-- A frame is referenced if some space references it. -/
theorem Sound.refs_pos_iff (sound : memory.Sound size 0) :
    0 < memory.pool.refs frame ↔ ∃ handle, frame ∈ memory.referencesOf handle := by
  rw [sound.accounted.balanced.refs_eq, Multiset.count_pos, ← total_references, total,
    Multiset.mem_sum]
  constructor
  · rintro ⟨index, -, member⟩
    exact ⟨⟨index⟩, member⟩
  · rintro ⟨handle, member⟩
    -- A handle past the last space has no references.
    cases found : memory.table? handle with
    | none => simp [referencesOf, found] at member
    | some table =>
      exact ⟨handle.index, Finset.mem_range.mpr (index_lt_of_table? found), member⟩

/-- If every space makes the same references, the same frames are in use, equally often. -/
theorem Sound.refs_eq_of_references (sound : memory.Sound size 0) (after : next.Sound size 0)
    (same : ∀ handle, next.referencesOf handle = memory.referencesOf handle)
    (frame : FrameNumber) : next.pool.refs frame = memory.pool.refs frame := by
  -- A counter is the number of references, summed over all spaces.
  rw [after.accounted.balanced.refs_eq, sound.accounted.balanced.refs_eq, ← total_references,
    ← total_references, total_ext same]

/-- If every frame is in use equally often, the same frames are free. -/
theorem Sound.mem_free_iff_of_refs (sound : memory.Sound size 0) (after : next.Sound size 0)
    (same : ∀ frame, next.pool.refs frame = memory.pool.refs frame) (frame : FrameNumber) :
    frame ∈ next.pool.free ↔ frame ∈ memory.pool.free := by
  -- A frame is free exactly if nothing refers to it.
  rw [← List.count_pos_iff, ← List.count_pos_iff, after.accounted.balanced.count_free,
    sound.accounted.balanced.count_free, same]

/-- Mapping a frame over itself changes no references. -/
theorem Sound.referencesOf_map (sound : memory.Sound size 0)
    (found : memory.entryAt? handle va = some entry)
    (mapped : memory.map handle va entry.frame flags = (.ok (), next)) :
    next.referencesOf handle = memory.referencesOf handle := by
  obtain ⟨table, made, pool, -, -, named, inserted, rfl⟩ := map_ok_spec mapped
  obtain ⟨tables, directory⟩ :=
    PageTable.tables_insert (sound.tableIndex_isSome named found) inserted
  rw [entryAt?, named, Option.bind_some] at found
  -- The same frame goes out of the leaves and into them again.
  have exchanged := PageTable.leaves_insert inserted
  rw [found, Option.map_some, Option.toList_some, Multiset.coe_singleton, add_comm,
    Multiset.singleton_add, Multiset.cons_inj_right] at exchanged
  rw [referencesOf, table?_replaced named, referencesOf, named, Option.map_some, Option.map_some,
    Option.getD_some, Option.getD_some, PageTable.references, PageTable.references, exchanged,
    PageTable.ownFrames, PageTable.ownFrames, tables, directory]

/-- A space shares some of its pages, and nothing but those and a new space has changed. -/
structure Lends (memory next : Memory) (space child : SpaceHandle) (pages : List Word) : Prop where
  /-- The new space did not exist before. -/
  absent : memory.table? child = none
  /-- It is another space. -/
  ne : child ≠ space
  /-- The shared pages can be written no more, and the others are as they were. -/
  entries : ∀ va, next.entryAt? space va =
    if pageNumber va ∈ pages then (memory.entryAt? space va).map PageEntry.demoted
    else memory.entryAt? space va
  /-- The space makes the same references. -/
  references : next.referencesOf space = memory.referencesOf space
  /-- All spaces but the new one are as they were. -/
  others : ∀ handle, handle ≠ space → handle ≠ child → next.table? handle = memory.table? handle
  /-- Frames in use keep their bytes. -/
  page_eq : ∀ frame, 0 < memory.pool.refs frame → next.pool.page frame = memory.pool.page frame

namespace Lends

/-- A new space has no pages at first, and its parent's are all as they were. -/
theorem created (created : memory.createSpace = (.ok child, next)) (sound : memory.Sound size 0)
    (exists_ : (memory.table? space).isSome = true) : Lends memory next space child [] := by
  obtain ⟨absent, -, others, -⟩ := createSpace_ok_spec created
  -- A space that existed before is not the new one.
  have apart : space ≠ child := by
    rintro rfl
    simp [absent] at exists_
  have same := others space apart
  have supplies := memory.supplies_createSpace
  rw [created] at supplies
  exact
    { absent := absent
      ne := Ne.symm apart
      entries := fun va => by simp [entryAt?, same]
      references := by rw [referencesOf, same, referencesOf]
      others := fun handle _ other => others handle other
      page_eq := fun frame used => supplies.clears.page_of_used (sound.not_mem_free used) }

section Step

variable (lends : Lends memory now space child pages)
include lends

/-- Whichever pages are shared already, all entries look the same once they are shared. -/
theorem demoted_entryAt? (va : Address) : (now.entryAt? space va).map PageEntry.demoted =
    (memory.entryAt? space va).map PageEntry.demoted := by
  -- A page that has been passed is shared now, and any other is as it was.
  rw [lends.entries]
  split
  · cases memory.entryAt? space va with
    | none => rfl
    | some entry => simp [PageEntry.demoted_demoted]
  · rfl

/-- A space other than the new one makes the same references. -/
theorem referencesOf_eq (other : handle ≠ child) :
    now.referencesOf handle = memory.referencesOf handle := by
  -- It is the duplicated one, which only lost flags, or one that has not been touched.
  by_cases own : handle = space
  · exact own ▸ lends.references
  · rw [referencesOf, lends.others handle own other, referencesOf]

/-- A frame that was in use before there was a new space is still in use. -/
theorem not_mem_free (sound : memory.Sound size 0) (between : now.Sound size 0)
    (used : 0 < memory.pool.refs frame) : frame ∉ now.pool.free := by
  -- Some space refers to the frame, and not the new one, which was not there.
  obtain ⟨handle, member⟩ := sound.refs_pos_iff.mp used
  have other : handle ≠ child := by
    rintro rfl
    simp [referencesOf, lends.absent] at member
  rw [← lends.referencesOf_eq other] at member
  exact between.not_mem_free (between.refs_pos_iff.mpr ⟨handle, member⟩)

/-- A page that cannot be told from a shared one may count as one. -/
theorem entries_append {more : List Word}
    (entries : ∀ other, next.entryAt? space other =
      if pageNumber other ∈ more then (now.entryAt? space other).map PageEntry.demoted
      else now.entryAt? space other) (other : Address) : next.entryAt? space other =
    if pageNumber other ∈ pages ++ more then (memory.entryAt? space other).map PageEntry.demoted
    else memory.entryAt? space other := by
  -- Sharing a page a second time changes nothing, so that it does not matter which come late.
  rw [entries, lends.demoted_entryAt?, lends.entries]
  simp only [List.mem_append]
  by_cases late : pageNumber other ∈ more
  · rw [if_pos late, if_pos (.inr late)]
  · rw [if_neg late]
    simp only [late, or_false]

variable (sound : memory.Sound size 0) (between : now.Sound size 0)
include sound between

/-- What changes the new space alone leaves the rest as it was. -/
theorem outside (outside : SameOutside child now next)
    (clears : FramePool.Clears now.pool next.pool) : Lends memory next space child pages := by
  have same := outside.others space (Ne.symm lends.ne)
  -- What was lent lies in spaces that stay, and its frames are in use and not cleared.
  exact
    { absent := lends.absent
      ne := lends.ne
      entries := fun va => by rw [← lends.entries, entryAt?, same, entryAt?]
      references := by rw [← lends.references, referencesOf, same, referencesOf]
      others := fun handle own other =>
        (outside.others handle other).trans (lends.others handle own other)
      page_eq := fun frame used => (clears.page_of_used
        (lends.not_mem_free sound between used)).trans (lends.page_eq frame used) }

/-- A page of the space is mapped over itself, with the permission of a shared one. -/
theorem demote (mapped : now.entryAt? space va = some entry)
    (allowed : entry.flags.isUserPermission = true)
    (shared : now.map space va entry.frame entry.flags.demoted = (.ok (), next)) :
    Lends memory next space child (pages ++ [pageNumber va]) := by
  -- Only the entry of the page changes, and it is that of a shared page now.
  have installs := installs_map shared
  rw [PageFlags.or_present (PageFlags.isUserPermission_demoted allowed)] at installs
  have outside := now.sameOutside_map space va entry.frame entry.flags.demoted
  rw [shared] at outside
  exact
    { absent := lends.absent
      ne := lends.ne
      entries := lends.entries_append fun other => by
        simp only [List.mem_singleton]
        rw [installs.here]
        split
        · rename_i here
          rw [entryAt?_congr here, mapped]
          rfl
        · rfl
      references := (between.referencesOf_map mapped shared).trans lends.references
      others := fun handle own other =>
        (outside.others handle own).trans (lends.others handle own other)
      page_eq := fun frame used => (installs.pages frame
        (lends.not_mem_free sound between used)).trans (lends.page_eq frame used) }

end Step

end Lends

/-- A space shares some of its pages with a new one, which has no others. -/
structure Duplicates (memory next : Memory) (space child : SpaceHandle) (pages : List Word) : Prop
    extends Lends memory next space child pages where
  /-- The new space has the shared pages. -/
  copies : ∀ va, next.entryAt? child va =
    if pageNumber va ∈ pages then (memory.entryAt? space va).map PageEntry.demoted else none

namespace Duplicates

/-- A new space is a duplicate of which no page has been copied yet. -/
theorem created (created : memory.createSpace = (.ok child, next)) (sound : memory.Sound size 0)
    (exists_ : (memory.table? space).isSome = true) : Duplicates memory next space child [] where
  toLends := .created created sound exists_
  copies va := by simp [entryAt?_createSpace created]

variable (duplicates : Duplicates memory now space child pages)
include duplicates

/-- Pages that are not mapped may count as shared. -/
theorem skip {more : List Word} (unmapped : ∀ va, pageNumber va ∈ more →
    now.entryAt? space va = none) : Duplicates memory now space child (pages ++ more) where
  absent := duplicates.absent
  ne := duplicates.ne
  entries := duplicates.entries_append fun va => by
    split
    · rename_i late
      rw [unmapped va late]
      rfl
    · rfl
  references := duplicates.references
  others := duplicates.others
  page_eq := duplicates.page_eq
  copies va := by
    rw [duplicates.copies]
    simp only [List.mem_append]
    -- A page that is mapped on neither side is shared in the way that it is mapped.
    by_cases late : pageNumber va ∈ more
    · have none_ := duplicates.demoted_entryAt? va
      rw [unmapped va late] at none_
      rw [← none_]
      simp
    · simp only [late, or_false]

variable (sound : memory.Sound size 0) (between : now.Sound size 0)
  (mapped : now.entryAt? space va = some entry) (allowed : entry.flags.isUserPermission = true)
  (given : now.map child va entry.frame entry.flags.demoted = (.ok (), next))
include sound between mapped allowed given

/-- The new space gets a page first, with the permission of a shared one. -/
theorem give : Lends memory next space child pages ∧ ∀ other, next.entryAt? child other =
    if pageNumber other ∈ pages ++ [pageNumber va] then
      (memory.entryAt? space other).map PageEntry.demoted
    else none := by
  have installs := installs_map given
  rw [PageFlags.or_present (PageFlags.isUserPermission_demoted allowed)] at installs
  have outside := now.sameOutside_map child va entry.frame entry.flags.demoted
  have clears := now.clears_map child va entry.frame entry.flags.demoted
  rw [given] at outside clears
  refine ⟨duplicates.outside sound between outside clears, fun other => ?_⟩
  rw [installs.here]
  simp only [List.mem_append, List.mem_singleton]
  by_cases here : pageNumber other = pageNumber va
  -- Shared or not, the parent's entry looks the same to the new space.
  · have same := duplicates.demoted_entryAt? other
    rw [entryAt?_congr here, mapped] at same
    rw [if_pos here, if_pos (.inr here), ← same]
    rfl
  · rw [if_neg here, duplicates.copies]
    simp only [here, or_false]

/-- A page that cannot be written is shared as it is. -/
theorem share (plain : entry.flags.demoted = entry.flags) :
    Duplicates memory next space child (pages ++ [pageNumber va]) := by
  obtain ⟨lends, copies⟩ := duplicates.give sound between mapped allowed given
  have outside := now.sameOutside_map child va entry.frame entry.flags.demoted
  rw [given] at outside
  -- The parent keeps its entry, which is the one that was given away.
  exact
    { lends with
      entries := duplicates.entries_append fun other => by
        rw [entryAt?_of_others outside (Ne.symm lends.ne)]
        simp only [List.mem_singleton]
        split
        · rename_i here
          rw [entryAt?_congr here, mapped, Option.map_some, PageEntry.demoted, plain]
        · rfl
      copies := copies }

/-- A page that could be written is taken back from its owner once the new space has it. -/
theorem exchange {last : Memory} (handed : next.Sound size 0)
    (taken : next.map space va entry.frame entry.flags.demoted = (.ok (), last)) :
    Duplicates memory last space child (pages ++ [pageNumber va]) := by
  obtain ⟨lends, copies⟩ := duplicates.give sound between mapped allowed given
  have outside := now.sameOutside_map child va entry.frame entry.flags.demoted
  have beyond := next.sameOutside_map space va entry.frame entry.flags.demoted
  rw [given] at outside
  rw [taken] at beyond
  -- What the new space got has not changed the page of its owner.
  have still : next.entryAt? space va = some entry := by
    rw [entryAt?_of_others outside (Ne.symm lends.ne), mapped]
  exact
    { lends.demote sound handed still allowed taken with
      copies := fun other => by rw [entryAt?_of_others beyond lends.ne, copies] }

end Duplicates

/-- A new space has its share of the pages, and a page of its own on which handlers run. -/
structure Furnishes (memory next : Memory) (space child : SpaceHandle) (pages : List Word)
    (stack : Address) : Prop extends Lends memory next space child pages where
  /-- The page of its own has a zero-filled frame that nobody else refers to. -/
  copies : ∃ frame, next.pool.page frame = Page.zero ∧ next.pool.refs frame = 1 ∧
    ∀ va, next.entryAt? child va =
      if pageNumber va = pageNumber stack then some { frame, flags := .readWrite }
      else if pageNumber va ∈ pages then (memory.entryAt? space va).map PageEntry.demoted
      else none

/-- A page that is new in the duplicate furnishes it. -/
theorem Duplicates.furnish (duplicates : Duplicates memory now space child pages)
    (sound : memory.Sound size 0) (between : now.Sound size 0) (after : next.Sound size 0)
    (made : now.mapFresh child va .readWrite = (.ok (), next)) :
    Furnishes memory next space child pages va where
  toLends := by
    have outside := now.sameOutside_mapFresh child va .readWrite
    have clears := now.clears_mapFresh child va .readWrite
    rw [made] at outside clears
    exact duplicates.outside sound between outside clears
  copies := by
    -- The frame was free, so that its one reference is the new one.
    obtain ⟨frame, free, zero, entries⟩ := mapFresh_ok_spec made
    have found := (entries va).trans (if_pos rfl)
    refine ⟨frame, zero, between.refs_of_mapFresh after made found free, fun other => ?_⟩
    rw [entries, duplicates.copies]
    rfl

/-- A space may have lost the permission to write to some of its pages, and nothing else. -/
structure Recovers (memory last : Memory) (space : SpaceHandle) : Prop where
  /-- Each page has its old entry, or that of a shared page. -/
  entries : ∀ va, last.entryAt? space va = memory.entryAt? space va ∨
    last.entryAt? space va = (memory.entryAt? space va).map PageEntry.demoted
  /-- Other spaces are as they were. -/
  others : ∀ handle, handle ≠ space → last.table? handle = memory.table? handle
  /-- The same frames are free. -/
  mem_free_iff : ∀ frame, frame ∈ last.pool.free ↔ frame ∈ memory.pool.free
  /-- Every frame is referenced as often as it was. -/
  refs_eq : ∀ frame, last.pool.refs frame = memory.pool.refs frame
  /-- Frames in use keep their bytes. -/
  page_eq : ∀ frame, 0 < memory.pool.refs frame → last.pool.page frame = memory.pool.page frame

/-- Memory that is intact has recovered. -/
theorem Intact.recovers (intact : memory.Intact next) (space : SpaceHandle) :
    memory.Recovers next space where
  entries va := .inl (by rw [entryAt?, intact.tables, entryAt?])
  others handle _ := intact.tables handle
  mem_free_iff frame := by rw [intact.pool.free_eq]
  refs_eq := intact.pool.refs_eq
  page_eq := intact.pool.page_eq

/-- When the new space goes, all that is left of it is that some pages can be written no more. -/
theorem Lends.recovers (lends : Lends memory now space child pages) (sound : memory.Sound size 0)
    (after : (now.destroySpace child).2.Sound size 0) :
    memory.Recovers (now.destroySpace child).2 space := by
  have tables := now.destroySpace_spec child
  have kept (handle : SpaceHandle) (other : handle ≠ child) :
      (now.destroySpace child).2.table? handle = now.table? handle := by rw [tables, if_neg other]
  -- Space by space the references are those that were there before.
  have references (handle : SpaceHandle) :
      (now.destroySpace child).2.referencesOf handle = memory.referencesOf handle := by
    by_cases gone : handle = child
    · rw [referencesOf, tables, if_pos gone, gone, referencesOf, lends.absent]
    · rw [← lends.referencesOf_eq gone, referencesOf, kept handle gone, referencesOf]
  have refs := sound.refs_eq_of_references after references
  refine
    { entries := fun va => ?_
      others := fun handle own => ?_
      mem_free_iff := sound.mem_free_iff_of_refs after refs
      refs_eq := refs
      page_eq := fun frame used =>
        (page_destroySpace now child frame).trans (lends.page_eq frame used) }
  · rw [entryAt?, kept space (Ne.symm lends.ne), ← entryAt?, lends.entries]
    split
    · exact .inr rfl
    · exact .inl rfl
  · by_cases gone : handle = child
    · rw [tables, if_pos gone, gone, lends.absent]
    · rw [kept handle gone, lends.others handle own gone]

end Memory

end Exokernel
