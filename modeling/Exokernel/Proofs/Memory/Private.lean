import Exokernel.Proofs.Memory.Bytes

/-! Spaces whose pages below the stack top can be written to at their own place only. -/

namespace Exokernel.Memory

variable {memory next last : Memory} {space target handle : SpaceHandle} {va place : Address}
  {entry : PageEntry} {content : Option PageEntry} {frame : FrameNumber} {flags : PageFlags}
  {size : Nat}

/-- What a space maps below the stack top can be written to only there. -/
def Guards (memory : Memory) (space : SpaceHandle) : Prop :=
  -- The page itself may be writable, and no other place of its frame may.
  ∀ va entry, va < stackTop → memory.entryAt? space va = some entry →
    ∀ other place flags, memory.entryAt? other place = some { frame := entry.frame, flags } →
      flags.contains .writable = true → other = space ∧ pageNumber place = pageNumber va

/-- One page of a space has another entry, or none, and frames in use keep their bytes. -/
structure Installs (memory next : Memory) (target : SpaceHandle) (place : Address)
    (content : Option PageEntry) : Prop where
  /-- The page has the entry, and all others of the space keep theirs. -/
  here : ∀ va, next.entryAt? target va =
    if pageNumber va = pageNumber place then content else memory.entryAt? target va
  /-- Other spaces keep their entries. -/
  there : ∀ other, other ≠ target → ∀ va, next.entryAt? other va = memory.entryAt? other va
  /-- Frames in use keep their bytes. -/
  pages : ∀ frame, frame ∉ memory.pool.free → next.pool.page frame = memory.pool.page frame

/-- All addresses of a page have the same entry. -/
theorem entryAt?_congr {other : Address} (page : pageNumber va = pageNumber other) :
    memory.entryAt? handle va = memory.entryAt? handle other := by
  -- Tables are looked up by page numbers.
  simp only [entryAt?, PageTable.entryAt?, page]

/-- A space keeps its entries while another one is changed. -/
theorem entryAt?_of_others {target : SpaceHandle} (outside : SameOutside target memory next)
    (different : handle ≠ target) (va : Address) :
    next.entryAt? handle va = memory.entryAt? handle va := by
  -- Its table is the same.
  rw [entryAt?, outside.others handle different, entryAt?]

/-- A mapping that succeeds installs its entry. -/
theorem installs_map (mapped : memory.map target place frame flags = (.ok (), next)) :
    Installs memory next target place (some { frame, flags := flags ||| .present }) where
  here := entryAt?_map mapped
  there other different va := by
    have outside := memory.sameOutside_map target place frame flags
    rw [mapped] at outside
    exact entryAt?_of_others outside different va
  -- Only free frames were taken, so that frames in use have their bytes.
  pages other used := by
    have clears := memory.clears_map target place frame flags
    rw [mapped] at clears
    exact clears.page_of_used used

/-- A mapping that is removed is installed as none. -/
theorem installs_unmap (exists_ : (memory.table? target).isSome = true) (place : Address) :
    Installs memory (memory.unmap target place).2 target place none where
  here va := by
    -- An existing space has a table to remove it from.
    obtain ⟨table, found⟩ := Option.isSome_iff_exists.mp exists_
    exact entryAt?_unmap found place va
  there other different va :=
    entryAt?_of_others (memory.sameOutside_unmap target place) different va
  pages other _ := memory.page_unmap target place other

/-- A fresh page has a frame that nothing was mapped to. -/
theorem installs_mapFresh (mapped : memory.mapFresh target place flags = (.ok (), next)) :
    ∃ frame ∈ memory.pool.free,
      Installs memory next target place (some { frame, flags := flags ||| .present }) := by
  -- What is known of the mapping is known of the space, of all others and of the frames in turn.
  obtain ⟨frame, free, -, entries⟩ := mapFresh_ok_spec mapped
  have outside := memory.sameOutside_mapFresh target place flags
  have clears := memory.clears_mapFresh target place flags
  rw [mapped] at outside clears
  exact ⟨frame, free, entries, fun other => entryAt?_of_others outside,
    fun other => clears.page_of_used⟩

namespace Installs

/-- What is mapped after the change was mapped before, or is the new entry. -/
theorem entryAt?_cases (installs : Installs memory next target place content)
    (found : next.entryAt? handle va = some entry) :
    handle = target ∧ pageNumber va = pageNumber place ∧ content = some entry ∨
      memory.entryAt? handle va = some entry := by
  -- Only one page of one space has another entry.
  by_cases same : handle = target
  · subst same
    rw [installs.here] at found
    split at found
    · rename_i page
      exact .inl ⟨rfl, page, found⟩
    · exact .inr found
  · rw [installs.there handle same] at found
    exact .inr found

/-- Away from the place of an installation all entries stay. -/
theorem entryAt?_eq (installs : Installs memory next target place content)
    (apart : handle ≠ target ∨ pageNumber va ≠ pageNumber place) :
    next.entryAt? handle va = memory.entryAt? handle va := by
  -- The entry is one of another page, or one of another space.
  by_cases same : handle = target
  · subst same
    rw [installs.here, if_neg (apart.resolve_left (· rfl))]
  · exact installs.there handle same va

/-- A page that was and stays mapped to the same frame has the same bytes. -/
theorem byteAt_eq (installs : Installs memory next target place content)
    (sound : memory.Sound size 0) {old : PageEntry}
    (before : memory.entryAt? handle va = some old) (after : next.entryAt? handle va = some entry)
    (same : entry.frame = old.frame) : next.byteAt handle va = memory.byteAt handle va := by
  -- Its frame was in use, and no frame in use has changed.
  refine byteAt_congr before after ?_
  rw [same]
  exact installs.pages _ (sound.not_mem_free_of_entry before)

/-- Permissions stay such as user code may ask for, if the new one is. -/
theorem permitted (installs : Installs memory next target place content)
    (permitted : memory.Permitted)
    (allowed : ∀ entry, content = some entry → entry.flags.isUserPermission = true) :
    next.Permitted := by
  -- Each entry is the new one or an old one.
  intro handle va entry found
  rcases installs.entryAt?_cases found with ⟨-, -, new⟩ | old
  · exact allowed entry new
  · exact permitted handle va entry old

/-- An entry that user code may ask for keeps permissions such. -/
theorem permitted_of_allowed {frame : FrameNumber} {flags : PageFlags} (installs :
      Installs memory next target place (some { frame, flags := flags ||| .present }))
    (permitted : memory.Permitted) (allowed : flags.isUserPermission = true) :
    next.Permitted := by
  -- The present bit that is added is there already.
  refine installs.permitted permitted ?_
  rintro _ ⟨⟩
  rwa [PageFlags.or_present allowed]

/-- Bytes that are written to a fresh page change no frame that was in use. -/
theorem copyOut (installs : Installs memory next target place (some entry))
    (free : entry.frame ∈ memory.pool.free) {bytes : List UInt8}
    (inPage : ∀ offset < bytes.length, pageNumber (va + UInt32.ofNat offset) = pageNumber place) :
    Installs memory (next.copyOut target va bytes).2 target place (some entry) where
  here other := by rw [entryAt?_copyOut, installs.here]
  there other different _ := by rw [entryAt?_copyOut, installs.there other different]
  pages frame used := by
    -- All bytes go to the fresh frame, which was free.
    have kept : (next.copyOut target va bytes).2.pool.page frame = next.pool.page frame := by
      refine page_copyOut fun offset inside written found same => used ?_
      rw [installs.here, if_pos (inPage offset inside), Option.some.injEq] at found
      rwa [← same, ← found]
    rw [kept, installs.pages frame used]

/-- An entry is moved: it is mapped at another page, and then removed from the first one. -/
theorem moved {home : Address} (installs : Installs memory next space home content)
    (vacant : memory.entryAt? space home = none) (apart : pageNumber home ≠ pageNumber place)
    (used : ∀ other ∉ memory.pool.free, other ∉ next.pool.free)
    (placed : next.map space place frame flags = (.ok (), last)) :
    Installs memory (last.unmap space home).2 space place
      (some { frame, flags := flags ||| .present }) := by
  -- The new place has the entry once it is mapped, and the old one is empty as at first.
  have placing := installs_map placed
  have exists_ : (last.table? space).isSome = true := by
    have found := (placing.here place).trans (if_pos rfl)
    obtain ⟨table, named, -⟩ := Option.bind_eq_some_iff.mp found
    rw [named]
    rfl
  have taking := installs_unmap exists_ home
  refine ⟨fun va => ?_, fun other different va => ?_, fun other inUse => ?_⟩
  · rw [taking.here, placing.here, installs.here]
    by_cases atHome : pageNumber va = pageNumber home
    · rw [if_pos atHome, if_neg (atHome ▸ apart), entryAt?_congr atHome, vacant]
    · rw [if_neg atHome, if_neg atHome]
  · rw [taking.there other different, placing.there other different, installs.there other different]
  · rw [page_unmap, placing.pages other (used other inUse), installs.pages other inUse]

end Installs

namespace Guards

/-- An entry for a frame that nothing was mapped to endangers no page. -/
theorem installs_fresh (guards : memory.Guards space) (sound : memory.Sound size 0)
    (installs : Installs memory next target place (some entry))
    (free : entry.frame ∈ memory.pool.free) : next.Guards space := by
  -- No old entry has the frame of the new one.
  have unmapped {handle : SpaceHandle} {va : Address} {old : PageEntry}
      (found : memory.entryAt? handle va = some old) : old.frame ≠ entry.frame := fun same =>
    sound.not_mem_free_of_entry found (same ▸ free)
  intro va current below found other elsewhere flags mapped writes
  rcases installs.entryAt?_cases found with ⟨rfl, page, new⟩ | old
  · rw [Option.some.injEq] at new
    rcases installs.entryAt?_cases mapped with ⟨rfl, same, -⟩ | older
    · exact ⟨rfl, same.trans page.symm⟩
    · exact (unmapped older (congrArg PageEntry.frame new).symm).elim
  · rcases installs.entryAt?_cases mapped with ⟨-, -, new⟩ | older
    · rw [Option.some.injEq] at new
      exact (unmapped old (congrArg PageEntry.frame new).symm).elim
    · exact guards va current below old other elsewhere flags older writes

/-- An entry that does not permit writing endangers no page, but needs one to guard itself. -/
theorem installs_shared (guards : memory.Guards space)
    (installs : Installs memory next target place (some entry))
    (readOnly : entry.flags.contains .writable = false)
    (own : target = space → ∃ old, memory.entryAt? space place = some old ∧
      old.frame = entry.frame) : next.Guards space := by
  -- A mapping through which somebody could write is an old one.
  intro va current below found other elsewhere flags mapped writes
  have older : memory.entryAt? other elsewhere = some { frame := current.frame, flags } := by
    rcases installs.entryAt?_cases mapped with ⟨-, -, new⟩ | older
    · rw [Option.some.injEq] at new
      rw [new] at readOnly
      exact absurd writes (by simp [readOnly])
    · exact older
  rcases installs.entryAt?_cases found with ⟨rfl, page, new⟩ | old
  · obtain ⟨old, before, frame⟩ := own rfl
    rw [Option.some.injEq] at new
    have here : memory.entryAt? space va = some old := by
      rw [entryAt?_congr page, before]
    rw [← new, ← frame] at older
    exact guards va old below here other elsewhere flags older writes
  · exact guards va current below old other elsewhere flags older writes

end Guards

/-- A space that can be forked, or that goes on after a fork. -/
structure Private (memory : Memory) (space : SpaceHandle) : Prop where
  /-- Only the space itself can write to its pages. -/
  guarded : memory.Guards space
  /-- The page on which copies are made is free. -/
  vacant : memory.entryAt? space copyPage = none

/-- The four bytes below a stack pointer, through which a fault handler returns. -/
def InReturnSlot (stack va : Address) : Prop :=
  (va - (stack - 4)).toNat < 4

/-- What a space maps below the stack top it mapped before, with the same bytes but a few. -/
def Keeps (memory next : Memory) (space : SpaceHandle) (stack : Address) : Prop :=
  -- The few are those of the word below the stack.
  ∀ va < stackTop, ∀ entry, next.entryAt? space va = some entry →
    (memory.entryAt? space va).isSome = true ∧
      (¬InReturnSlot stack va → next.byteAt space va = memory.byteAt space va)

/-- A space keeps what it maps while nothing happens. -/
theorem Keeps.refl (memory : Memory) (space : SpaceHandle) (stack : Address) :
    Keeps memory memory space stack := by
  -- Every entry is its own old one.
  intro va _ entry found
  exact ⟨by rw [found]; rfl, fun _ => rfl⟩

/-- Two changes that keep what a space maps are one. -/
theorem Keeps.trans {stack : Address} (before : Keeps memory next space stack)
    (after : Keeps next last space stack) : Keeps memory last space stack := by
  -- What is mapped in the end was mapped in the middle, and then at the start.
  intro va below entry found
  obtain ⟨mapped, later⟩ := after va below entry found
  obtain ⟨middle, between⟩ := Option.isSome_iff_exists.mp mapped
  obtain ⟨first, earlier⟩ := before va below middle between
  exact ⟨first, fun outside => (later outside).trans (earlier outside)⟩

/-- Changing one page keeps the bytes if the page's own bytes are kept. -/
theorem Installs.keeps (installs : Installs memory next target place content)
    (sound : memory.Sound size 0) {stack : Address}
    (own : space = target → ∀ va < stackTop, pageNumber va = pageNumber place → ∀ entry,
      content = some entry → (memory.entryAt? space va).isSome = true ∧
        next.byteAt space va = memory.byteAt space va) : Keeps memory next space stack := by
  -- An entry after is the new one, of which this is assumed, or an old one.
  intro va below entry found
  rcases installs.entryAt?_cases found with ⟨rfl, page, new⟩ | old
  · obtain ⟨mapped, same⟩ := own rfl va below page entry new
    exact ⟨mapped, fun _ => same⟩
  · exact ⟨by rw [old]; rfl, fun _ => installs.byteAt_eq sound old found rfl⟩

/-- No address below the stack top lies on a page above it. -/
theorem pageNumber_ne_of_above {va place : Address} (below : va < stackTop)
    (above : stackTop ≤ place) : pageNumber va ≠ pageNumber place := by
  -- The stack top is where a page begins.
  intro same
  have numbers := pageNumber_eq_iff.mp same
  have top : stackTop.toNat = 4005552128 := rfl
  have first := UInt32.lt_iff_toNat_lt.mp below
  have second := UInt32.le_iff_toNat_le.mp above
  omega

/-- What private spaces hold is kept, and they stay private. -/
def Spares (memory next : Memory) (stack : Address) : Prop :=
  ∀ space, memory.Private space → next.Private space ∧ Keeps memory next space stack

/-- Nothing may have happened to what is private. -/
theorem Spares.refl (memory : Memory) (stack : Address) : Spares memory memory stack :=
  fun space private_ => ⟨private_, .refl memory space stack⟩

/-- Two changes that spare what is private are one. -/
theorem Spares.trans {stack : Address} (before : Spares memory next stack)
    (after : Spares next last stack) : Spares memory last stack := by
  -- What is private stays so after the first one.
  intro space private_
  obtain ⟨between, earlier⟩ := before space private_
  obtain ⟨still, later⟩ := after space between
  exact ⟨still, earlier.trans later⟩

/-- Privacy depends on entries alone. -/
theorem Private.congr (private_ : memory.Private space)
    (entries : ∀ handle va, next.entryAt? handle va = memory.entryAt? handle va) :
    next.Private space where
  guarded := by
    -- Both sides are read with the entries before.
    intro va entry below found other place flags mapped
    rw [entries] at found mapped
    exact private_.guarded va entry below found other place flags mapped
  vacant := by
    rw [entries]
    exact private_.vacant

/-- A space stays private while bytes are written. -/
theorem Private.copyOut (private_ : memory.Private space) (handle : SpaceHandle) (va : Address)
    (bytes : List UInt8) : (memory.copyOut handle va bytes).2.Private space :=
  private_.congr fun other place => entryAt?_copyOut memory handle va bytes other place

/-- Bytes that are written where that is permitted are found in no other private space. -/
theorem Guards.byteAt_copyOut (guards : memory.Guards space) (sound : memory.Sound size 0)
    {bytes : List UInt8} (short : bytes.length ≤ addressCount)
    (written : memory.copyOut handle va bytes = (.ok (), next))
    (writable : ∀ offset < bytes.length, ∀ target,
      memory.entryAt? handle (va + UInt32.ofNat offset) = some target →
        target.flags.contains .writable = true)
    {other : Address} (below : other < stackTop)
    (found : memory.entryAt? space other = some entry) :
    next.byteAt space other =
      if handle = space then bytes[(other - va).toNat]?.getD (memory.byteAt space other)
      else memory.byteAt space other := by
  -- A byte that goes to the frame of the page goes to that very page.
  have single (offset : Nat) (inside : offset < bytes.length) (target : PageEntry)
      (there : memory.entryAt? handle (va + UInt32.ofNat offset) = some target)
      (same : target.frame = entry.frame) :
      handle = space ∧ pageNumber (va + UInt32.ofNat offset) = pageNumber other :=
    guards other entry below found handle _ target.flags (same ▸ there)
      (writable offset inside target there)
  by_cases own : handle = space
  · subst own
    rw [if_pos rfl]
    exact Memory.byteAt_copyOut sound.backed short written found
      fun offset inside target there same => (single offset inside target there same).2
  · rw [if_neg own]
    have entries := entryAt?_copyOut memory handle va bytes
    have kept : (memory.copyOut handle va bytes).2.pool.page entry.frame =
        memory.pool.page entry.frame :=
      page_copyOut fun offset inside target there same =>
        own (single offset inside target there same).1
    rw [written] at entries kept
    exact byteAt_congr found ((entries space other).trans found) kept

/-- Writing spares private spaces if what it reaches below the stack top may be overwritten. -/
theorem spares_copyOut (sound : memory.Sound size 0) {bytes : List UInt8} {stack : Address}
    (short : bytes.length ≤ addressCount)
    (written : memory.copyOut handle va bytes = (.ok (), next))
    (writable : ∀ offset < bytes.length, ∀ target,
      memory.entryAt? handle (va + UInt32.ofNat offset) = some target →
        target.flags.contains .writable = true)
    (reach : ∀ other < stackTop, (other - va).toNat < bytes.length → InReturnSlot stack other) :
    Spares memory next stack := by
  -- The mappings stay, and a byte below the stack top changes only where it may.
  intro space private_
  have still := private_.copyOut handle va bytes
  have entries := entryAt?_copyOut memory handle va bytes
  rw [written] at still entries
  refine ⟨still, fun other below entry found => ?_⟩
  rw [entries] at found
  refine ⟨by rw [found]; rfl, fun outside => ?_⟩
  rw [private_.guarded.byteAt_copyOut sound short written writable below found]
  split
  · have missed : ¬(other - va).toNat < bytes.length := fun inside =>
      outside (reach other below inside)
    rw [List.getElem?_eq_none (by omega), Option.getD_none]
  · rfl

/-- A page that is moved to a fresh frame with its bytes is spared, and so are all others. -/
theorem Installs.spares (installs : Installs memory next target place (some entry))
    (sound : memory.Sound size 0) (free : entry.frame ∈ memory.pool.free)
    (elsewhere : pageNumber copyPage ≠ pageNumber place)
    (same : ∀ va, pageNumber va = pageNumber place →
      (memory.entryAt? target va).isSome = true ∧
        next.byteAt target va = memory.byteAt target va) (stack : Address) :
    Spares memory next stack := by
  -- A frame that was free is mapped nowhere else, and the copy page stays vacant.
  intro space private_
  refine ⟨⟨private_.guarded.installs_fresh sound installs free, ?_⟩, ?_⟩
  · rw [installs.entryAt?_eq (.inr elsewhere)]
    exact private_.vacant
  · refine installs.keeps sound ?_
    rintro rfl va - page entry -
    exact same va page

/-- Once a page is copied, the copy page holds at every place what the page holds there. -/
theorem byteAt_copyPage {page : Address} {fresh copied : Memory} {old : PageEntry}
    (sound : memory.Sound size 0) (mapped : memory.entryAt? space page = some old)
    (aligned : isAligned page = true) (apart : pageNumber copyPage ≠ pageNumber page)
    (making : Installs memory fresh space copyPage (some { frame, flags := .readWrite }))
    (written : fresh.copyOut space copyPage
      ((addressRange page pageLength).map (fresh.byteAt space)) = (.ok (), copied))
    (backed : fresh.Backed) {va : Address} (inPage : pageNumber va = pageNumber page) :
    copied.byteAt space (copyPage + UInt32.ofNat (va.toNat % 4096)) = memory.byteAt space va := by
  have copyAligned : isAligned copyPage = true := by decide
  have length : ((addressRange page pageLength).map (fresh.byteAt space)).length = 4096 := by
    simp [addressRange]
  have inside : va.toNat % 4096 < 4096 := Nat.mod_lt _ (by decide)
  have place := add_offset_of_pageNumber_eq aligned inPage
  generalize va.toNat % 4096 = offset at inside place
  have source : fresh.entryAt? space (copyPage + UInt32.ofNat offset) =
      some { frame, flags := .readWrite } := by
    rw [making.here, if_pos (pageNumber_add_offset copyAligned inside)]
  have mappedHere : memory.entryAt? space va = some old := by
    rw [entryAt?_congr inPage, mapped]
  have offCopyPage : pageNumber va ≠ pageNumber copyPage := fun same =>
    apart (same.symm.trans inPage)
  -- What was written is what the page held, since making the copy page did not touch the page.
  calc copied.byteAt space (copyPage + UInt32.ofNat offset)
      = fresh.byteAt space va := by
        rw [byteAt_written backed (by rw [length]) written (length ▸ inside)
          (by rw [source]; rfl)]
        exact Option.some.inj (by
          rw [← List.getElem?_eq_getElem, getElem?_addressRange inside, place])
    _ = memory.byteAt space va :=
        making.byteAt_eq sound mappedHere
          (by rw [making.entryAt?_eq (.inr offCopyPage), mappedHere]) rfl

/--
A page is copied by way of the copy page.

A fresh page there takes the bytes, its frame takes the place of the old one, and then it is
removed from the copy page.
-/
theorem installs_copied {page : Address} {fresh copied placed : Memory} {old : PageEntry}
    (sound : memory.Sound size 0) (vacant : memory.entryAt? space copyPage = none)
    (mapped : memory.entryAt? space page = some old) (aligned : isAligned page = true)
    (made : memory.mapFresh space copyPage .readWrite = (.ok (), fresh))
    (written : fresh.copyOut space copyPage
      ((addressRange page pageLength).map (fresh.byteAt space)) = (.ok (), copied))
    (backed : fresh.Backed)
    (offered : copied.entryAt? space copyPage = some { frame, flags })
    (used : frame ∉ copied.pool.free)
    (moved : copied.map space page frame .readWrite = (.ok (), placed)) :
    Installs memory (placed.unmap space copyPage).2 space page
        (some { frame, flags := .readWrite }) ∧
      frame ∈ memory.pool.free ∧ ∀ va, pageNumber va = pageNumber page →
        (placed.unmap space copyPage).2.byteAt space va = memory.byteAt space va := by
  have copyAligned : isAligned copyPage = true := by decide
  have readWrite : PageFlags.readWrite ||| .present = .readWrite := by decide
  have apart : pageNumber copyPage ≠ pageNumber page := by
    intro same
    rw [entryAt?_congr same, mapped] at vacant
    simp at vacant
  have length : ((addressRange page pageLength).map (fresh.byteAt space)).length = 4096 := by
    simp [addressRange]
  have onCopyPage (offset : Nat)
      (inside : offset < ((addressRange page pageLength).map (fresh.byteAt space)).length) :
      pageNumber (copyPage + UInt32.ofNat offset) = pageNumber copyPage :=
    pageNumber_add_offset copyAligned (length ▸ inside)
  -- The frame that is offered is the one that was made for the copy page, and filled there.
  obtain ⟨new, free, making⟩ := installs_mapFresh made
  rw [readWrite] at making
  have filling := making.copyOut free onCopyPage
  rw [written] at filling
  obtain rfl : frame = new := by
    rw [filling.here, if_pos rfl, Option.some.injEq] at offered
    exact (congrArg PageEntry.frame offered).symm
  -- Frames in use stay in use, so that none of them is taken for a page table on the way.
  have stillUsed (other : FrameNumber) (inUse : other ∉ memory.pool.free) :
      other ∉ copied.pool.free := by
    have supplies := supplies_mapFresh vacant PageFlags.readWrite
    have stillFree := free_copyOut fresh space copyPage
      ((addressRange page pageLength).map (fresh.byteAt space))
    rw [made] at supplies
    rw [written] at stillFree
    exact fun listed => inUse (supplies.free_subset other (stillFree ▸ listed))
  have installs := filling.moved vacant apart stillUsed moved
  rw [readWrite] at installs
  refine ⟨installs, free, fun va inPage => ?_⟩
  -- Page and copy page correspond offset by offset.
  have inside : va.toNat % 4096 < 4096 := Nat.mod_lt _ (by decide)
  have place := add_offset_of_pageNumber_eq aligned inPage
  have offsets : (va % pageSize).toNat =
      ((copyPage + UInt32.ofNat (va.toNat % 4096)) % pageSize).toNat := by
    conv_lhs => rw [← place]
    rw [add_offset_mod aligned inside, add_offset_mod copyAligned inside]
  have filled : copied.entryAt? space (copyPage + UInt32.ofNat (va.toNat % 4096)) =
      some { frame, flags := .readWrite } := by
    rw [filling.here, if_pos (pageNumber_add_offset copyAligned inside)]
  have kept : (placed.unmap space copyPage).2.pool.page frame = copied.pool.page frame := by
    rw [page_unmap, (installs_map moved).pages frame used]
  -- The byte goes from its place in the page to that in the copy page, and back with the frame.
  calc (placed.unmap space copyPage).2.byteAt space va
      = copied.byteAt space (copyPage + UInt32.ofNat (va.toNat % 4096)) :=
        byteAt_of_frame filled ((installs.here va).trans (if_pos inPage)) offsets kept
    _ = memory.byteAt space va :=
        byteAt_copyPage sound mapped aligned apart making written backed inPage

end Exokernel.Memory
