import Exokernel.Proofs.Kernel.Loader
import Exokernel.Proofs.Memory.Private

/-! What an address space holds once an image has been placed in it. -/

namespace Exokernel

namespace Segment

variable {segment : Segment} {va : Address}

/-- The address is on a page of the segment, from its first page up to the boundary at its end. -/
def Spans (segment : Segment) (va : Address) : Prop :=
  pageBase segment.va ≤ va ∧ va < pageCeiling (segment.va + segment.length)

/-- The address is one of the segment's own. -/
def Covers (segment : Segment) (va : Address) : Prop :=
  segment.va.toNat ≤ va.toNat ∧ va.toNat < segment.va.toNat + segment.length.toNat

/-- An address is compared with both ends of a segment. -/
instance (segment : Segment) (va : Address) : Decidable (segment.Spans va) :=
  inferInstanceAs (Decidable (_ ∧ _))

/-- An address is compared with the ends of the pages of a segment. -/
instance (segment : Segment) (va : Address) : Decidable (segment.Covers va) :=
  inferInstanceAs (Decidable (_ ∧ _))

/-- Byte of the segment at one of its addresses: that of its data, or zero past the data. -/
def byteAt (segment : Segment) (va : Address) : UInt8 :=
  segment.data[va.toNat - segment.va.toNat]?.getD 0

/-- Byte at an address once the segment has been written over what was there. -/
def overlay (segment : Segment) (va : Address) (old : UInt8) : UInt8 :=
  if segment.Covers va then segment.byteAt va else old

/-- The first segment in the list with a page at an address. -/
def firstOn? (segments : List Segment) (va : Address) : Option Segment :=
  segments.find? fun segment => segment.Spans va

/-- The last segment in the list that covers an address. -/
def lastAt? (segments : List Segment) (va : Address) : Option Segment :=
  segments.reverse.find? fun segment => segment.Covers va

/-- The first segment on a page is the head of the list, or is found behind it. -/
theorem firstOn?_cons (segment : Segment) (rest : List Segment) (va : Address) :
    firstOn? (segment :: rest) va =
      if segment.Spans va then some segment else firstOn? rest va := by
  -- A search stops at the first hit.
  rw [firstOn?, List.find?_cons]
  split <;> simp_all [firstOn?]

/-- The last segment that covers an address is found behind the head, or is the head. -/
theorem lastAt?_cons (segment : Segment) (rest : List Segment) (va : Address) :
    lastAt? (segment :: rest) va =
      (lastAt? rest va).or (if segment.Covers va then some segment else none) := by
  -- Reversed, the head is looked at last.
  rw [lastAt?, List.reverse_cons, List.find?_append]
  by_cases covers : segment.Covers va <;> simp [lastAt?, covers]

/-- The segment ends in user memory, and has no more data than memory. -/
structure Fits (segment : Segment) : Prop where
  /-- Its end does not wrap around. -/
  below : segment.va.toNat + segment.length.toNat ≤ 4005560320
  /-- All data has a place. -/
  data_le : segment.data.length ≤ segment.length.toNat

/-- A segment that passes its check fits. -/
theorem fits_of_check (passed : segment.check = .ok ()) : segment.Fits := by
  -- Both refusals of the check are excluded, and what is left are the two bounds.
  simp only [check, toNat_userTop] at passed
  split at passed
  · simp at passed
  · split at passed
    · simp at passed
    · exact ⟨by omega, by omega⟩

namespace Fits

variable (fits : segment.Fits)
include fits

/-- The end of a segment that fits does not wrap around. -/
theorem toNat_end :
    (segment.va + segment.length).toNat = segment.va.toNat + segment.length.toNat := by
  -- User memory ends before the addresses do.
  have below := fits.below
  rw [UInt32.toNat_add, Nat.mod_eq_of_lt (by omega)]

/-- The pages of a segment by their numbers. -/
theorem spans_iff : segment.Spans va ↔ segment.va.toNat / 4096 ≤ va.toNat / 4096 ∧
    va.toNat / 4096 < (segment.va.toNat + segment.length.toNat + 4095) / 4096 := by
  have below := fits.below
  -- The end is far from the last page of all, so rounding it up does not wrap around.
  have low : segment.va + segment.length ≤ 0xfffff000 := by
    rw [UInt32.le_iff_toNat_le, fits.toNat_end]
    show _ ≤ 4294963200
    omega
  have up : (segment.va + segment.length + 4095).toNat =
      segment.va.toNat + segment.length.toNat + 4095 := by
    rw [UInt32.toNat_add, fits.toNat_end]
    show (_ + 4095) % 4294967296 = _
    omega
  rw [Spans, pageCeiling, if_pos low, UInt32.le_iff_toNat_le, UInt32.lt_iff_toNat_lt,
    toNat_pageBase, toNat_pageBase, up]
  omega

/-- Every address of a segment is on a page of it. -/
theorem spans_of_covers (covers : segment.Covers va) : segment.Spans va := by
  -- Pages that meet the segment are counted by quotients, and so is the page of the address.
  obtain ⟨above, inside⟩ := covers
  rw [fits.spans_iff]
  omega

/-- As many pages are provided as the segment has. -/
theorem pagesSpanned_eq : segment.va.toNat / 4096 +
      pagesSpanned segment.va (segment.va + segment.length) =
    (segment.va.toNat + segment.length.toNat + 4095) / 4096 := by
  -- The end is in user memory, where rounding up stays in range.
  have below := fits.below
  have ending := fits.toNat_end
  rw [Exokernel.pagesSpanned_eq segment.va (by omega), ending]
  omega

/-- A segment provides as many bytes as it is long. -/
theorem length_contents : segment.contents.length = segment.length.toNat := by
  -- Zeros fill up what the data leaves.
  have enough := fits.data_le
  rw [contents, List.length_append, List.length_replicate]
  omega

/-- The contents of a segment are its bytes, address by address. -/
theorem getD_contents (old : UInt8) :
    segment.contents[(va - segment.va).toNat]?.getD old = segment.overlay va old := by
  have below := fits.below
  have length := fits.length_contents
  have enough := fits.data_le
  have place := va.toNat_lt
  -- From its start on, an address is in the data, in the zeros behind it, or past the end.
  by_cases above : segment.va.toNat ≤ va.toNat
  · have distance : (va - segment.va).toNat = va.toNat - segment.va.toNat :=
      UInt32.toNat_sub_of_le _ _ (UInt32.le_iff_toNat_le.mpr above)
    rw [distance, overlay]
    split
    · rename_i covers
      obtain ⟨-, inside⟩ := covers
      rw [contents, byteAt]
      by_cases stored : va.toNat - segment.va.toNat < segment.data.length
      · rw [List.getElem?_append_left stored, List.getElem?_eq_getElem stored]
        rfl
      · rw [List.getElem?_append_right (by omega), List.getElem?_replicate, if_pos (by omega),
          List.getElem?_eq_none (by omega)]
        rfl
    · rename_i outside
      rw [Covers, not_and, not_lt] at outside
      have past := outside above
      rw [List.getElem?_eq_none (by omega), Option.getD_none]
  · -- Counted around the top of memory, the distance is longer than any segment.
    have distance : (va - segment.va).toNat = 4294967296 - segment.va.toNat + va.toNat := by
      rw [UInt32.toNat_sub]
      omega
    rw [overlay, if_neg (fun covers => above covers.1), List.getElem?_eq_none (by omega),
      Option.getD_none]

end Fits

end Segment

/-- The address is on the page of stack that every program gets. -/
def OnStack (va : Address) : Prop :=
  stackTop - pageSize ≤ va ∧ va < stackTop

/-- An address is compared with both ends of the stack page. -/
instance (va : Address) : Decidable (OnStack va) :=
  inferInstanceAs (Decidable (_ ∧ _))

/-- The stack is one page, with a number of its own. -/
theorem onStack_iff (va : Address) : OnStack va ↔ va.toNat / 4096 = 977917 := by
  -- Its bounds are two multiples of the page length that follow each other.
  have first : (stackTop - pageSize).toNat = 4005548032 := rfl
  have past : stackTop.toNat = 4005552128 := rfl
  rw [OnStack, UInt32.le_iff_toNat_le, UInt32.lt_iff_toNat_lt, first, past]
  omega

namespace ProgramImage

/-- The address is on a page of a segment, or on the stack. -/
def Occupies (image : ProgramImage) (va : Address) : Prop :=
  (∃ segment ∈ image.segments, segment.Spans va) ∨ OnStack va

/-- There are finitely many segments, and one stack. -/
instance (image : ProgramImage) (va : Address) : Decidable (image.Occupies va) :=
  inferInstanceAs (Decidable (_ ∨ _))

/-- Permission of a page: that of the first segment on it, and on the stack alone that of stacks. -/
def permissionAt (image : ProgramImage) (va : Address) : PageFlags :=
  -- A page keeps the permission that it was mapped with first.
  match Segment.firstOn? image.segments va with
  | some segment => segment.permission
  | none => .readWrite

/-- Byte of an image at an address: that of the last segment that covers it, or zero. -/
def byteAt (image : ProgramImage) (va : Address) : UInt8 :=
  -- Later segments overwrite what earlier ones have placed.
  match Segment.lastAt? image.segments va with
  | some segment => segment.byteAt va
  | none => 0

end ProgramImage

namespace Memory

variable {memory next last : Memory} {handle : SpaceHandle} {va page : Address} {size : Nat}
  {flags : PageFlags} {given later : Address → Option PageFlags}
  {byte rewritten : Address → UInt8 → UInt8}

/-- The next page has the next number, unless it is the last one. -/
theorem page_number_succ (low : page.toNat / 4096 + 1 < 1048576) :
    (page + pageSize).toNat / 4096 = page.toNat / 4096 + 1 := by
  -- The sum stays below the number of addresses.
  rw [UInt32.toNat_add, toNat_pageSize]
  omega

/-- Every page of a space has a frame that no other page of any space is mapped to. -/
def Unshared (memory : Memory) (handle : SpaceHandle) : Prop :=
  -- The same page of the same space is the only exception.
  ∀ va entry, memory.entryAt? handle va = some entry → ∀ other place another,
    memory.entryAt? other place = some another → another.frame = entry.frame →
      other = handle ∧ pageNumber place = pageNumber va

/-- A fresh page leaves the pages of a space with frames of their own. -/
theorem Unshared.mapFresh (unshared : memory.Unshared handle) (sound : memory.Sound size 0)
    (mapped : memory.mapFresh handle page flags = (.ok (), next)) : next.Unshared handle := by
  obtain ⟨frame, free, installs⟩ := installs_mapFresh mapped
  -- A frame that was free had no mapping.
  have fresh {other : SpaceHandle} {place : Address} {entry : PageEntry}
      (found : memory.entryAt? other place = some entry) : entry.frame ≠ frame := by
    rintro rfl
    exact sound.not_mem_free_of_entry found free
  intro va entry found other place another present same
  -- Of two pages with one frame, both are the new page, or neither is.
  rcases installs.entryAt?_cases found with ⟨-, here, new⟩ | old
  · rcases installs.entryAt?_cases present with ⟨own, there, -⟩ | older
    · exact ⟨own, there.trans here.symm⟩
    · rw [← Option.some.inj new] at same
      exact absurd same (fresh older)
  · rcases installs.entryAt?_cases present with ⟨-, -, new⟩ | older
    · rw [← Option.some.inj new] at same
      exact absurd same.symm (fresh old)
    · exact unshared va entry old other place another older same

/-- Frames stay unshared as long as no entry changes. -/
theorem Unshared.of_entries (unshared : memory.Unshared handle)
    (same : ∀ other place, next.entryAt? other place = memory.entryAt? other place) :
    next.Unshared handle := by
  -- Entries after are read as entries before.
  intro va entry found other place another present
  rw [same] at found present
  exact unshared va entry found other place another present

/-- A segment that is placed is backed by pages first, and written then. -/
theorem loadSegment_ok {segment : Segment}
    (loaded : memory.loadSegment handle segment = (.ok (), next)) : segment.Fits ∧ ∃ backed,
      memory.backPages handle segment.permission
        (pagesSpanned segment.va (segment.va + segment.length)) (pageBase segment.va) =
          (.ok (), backed) ∧
      backed.copyOut handle segment.va segment.contents = (.ok (), next) := by
  -- The checks, the pages and the bytes come one after the other, and nothing has failed.
  simp only [loadSegment] at loaded
  split at loaded
  · simp at loaded
  · rename_i passed
    split at loaded
    · simp at loaded
    · rename_i backed provided
      split at loaded
      · simp at loaded
      · rename_i copied written
        simp only [Prod.mk.injEq, true_and] at loaded
        subst loaded
        exact ⟨Segment.fits_of_check passed, backed, provided, written⟩

/-- An image that is placed has its segments placed first, and then its stack. -/
theorem loadImage_ok {image : ProgramImage}
    (loaded : memory.loadImage handle image = (.ok (), next)) : ∃ placed,
      memory.loadSegments handle image.segments = (.ok (), placed) ∧
      placed.backPages handle .readWrite 1 (stackTop - pageSize) = (.ok (), next) := by
  simp only [loadImage] at loaded
  -- Either step may fail, and then the image is not placed.
  split at loaded
  · simp at loaded
  · rename_i placed done
    split at loaded
    · simp at loaded
    · rename_i backed provided
      simp only [Prod.mk.injEq, true_and] at loaded
      subst loaded
      exact ⟨placed, done, provided⟩

/-- A space with pages of its own has got more of them, and other bytes on them. -/
structure Places (memory next : Memory) (handle : SpaceHandle) (size : Nat)
    (given : Address → Option PageFlags) (byte : Address → UInt8 → UInt8) : Prop where
  /-- References stay accounted for. -/
  sound : next.Sound size 0
  /-- Every page has its own frame. -/
  unshared : next.Unshared handle
  /-- Pages that are there keep their permission, and others get the given one. -/
  flags_eq : ∀ va, (next.entryAt? handle va).map PageEntry.flags =
    ((memory.entryAt? handle va).map PageEntry.flags).or (given va)
  /-- The byte at an address follows from the one before, which is zero on a new page. -/
  byteAt_eq : ∀ va, next.byteAt handle va = byte va (memory.byteAt handle va)

namespace Places

/-- Nothing may have been placed. -/
theorem refl (sound : memory.Sound size 0) (unshared : memory.Unshared handle) :
    Places memory memory handle size (fun _ => none) (fun _ old => old) where
  sound := sound
  unshared := unshared
  flags_eq _ := by rw [Option.or_none]
  byteAt_eq _ := rfl

/-- What is placed later is placed over what was placed before, where no page is mapped yet. -/
theorem trans (before : Places memory next handle size given byte)
    (after : Places next last handle size later rewritten) :
    Places memory last handle size (fun va => (given va).or (later va))
      (fun va old => rewritten va (byte va old)) where
  sound := after.sound
  unshared := after.unshared
  flags_eq va := by rw [after.flags_eq, before.flags_eq, Option.or_assoc]
  byteAt_eq va := by rw [after.byteAt_eq, before.byteAt_eq]

/-- A placement may be described in other words. -/
theorem congr (places : Places memory next handle size given byte)
    (flags : ∀ va, given va = later va) (bytes : ∀ va old, byte va old = rewritten va old) :
    Places memory next handle size later rewritten where
  sound := places.sound
  unshared := places.unshared
  flags_eq va := by rw [places.flags_eq, flags]
  byteAt_eq va := by rw [places.byteAt_eq, bytes]

/-- A fresh page where nothing was mapped. -/
theorem mapFresh (sound : memory.Sound size 0) (unshared : memory.Unshared handle)
    (missing : memory.entryAt? handle page = none) (allowed : flags.isUserPermission = true)
    (mapped : memory.mapFresh handle page flags = (.ok (), next)) :
    Places memory next handle size
      (fun va => if pageNumber va = pageNumber page then some flags else none)
      (fun _ old => old) := by
  obtain ⟨frame, free, zero, entries⟩ := mapFresh_ok_spec mapped
  obtain ⟨fresh, -, installs⟩ := installs_mapFresh mapped
  rw [PageFlags.or_present allowed] at entries
  refine ⟨?_, unshared.mapFresh sound mapped, fun va => ?_, fun va => ?_⟩
  · have kept := sound.mapFresh handle page flags
    rwa [mapped] at kept
  · rw [entries]
    split
    · rename_i here
      rw [entryAt?_congr here, missing]
      rfl
    · rw [Option.or_none]
  · -- The new page is all zeros, as an unmapped one reads.
    by_cases here : pageNumber va = pageNumber page
    · have now := (entries va).trans (if_pos here)
      rw [byteAt_of_entry now, FramePool.byteAt, zero, byteAt, entryAt?_congr here, missing]
      simp [Page.byteAt, Page.zero, Vector.get_eq_getElem]
    · have now := (entries va).trans (if_neg here)
      cases before : memory.entryAt? handle va with
      | none =>
        rw [before] at now
        simp only [byteAt, now, before]
      | some entry =>
        rw [before] at now
        exact installs.byteAt_eq sound before now rfl

/-- A run of pages gets frames where it has none. -/
theorem backPages (allowed : flags.isUserPermission = true) {count : Nat}
    (sound : memory.Sound size 0) (unshared : memory.Unshared handle)
    (low : page.toNat / 4096 + count < 1048576)
    (backed : memory.backPages handle flags count page = (.ok (), next)) :
    Places memory next handle size (fun va =>
        if page.toNat / 4096 ≤ va.toNat / 4096 ∧ va.toNat / 4096 < page.toNat / 4096 + count then
          some flags
        else none)
      (fun _ old => old) := by
  -- Follow the run of pages: the first one is there or is mapped fresh, and the rest is behind it.
  fun_induction Memory.backPages handle flags count page memory with
  | case1 page memory =>
    simp only [Prod.mk.injEq, true_and] at backed
    subst backed
    refine (refl sound unshared).congr (fun va => ?_) fun _ _ => rfl
    rw [if_neg (by omega)]
  | case2 count page memory entry found ih =>
    have number := page_number_succ (show page.toNat / 4096 + 1 < 1048576 by omega)
    have rest := ih sound unshared (by omega) backed
    -- The page that is there already keeps what it has, although it is in the run.
    refine ⟨rest.sound, rest.unshared, fun va => ?_, rest.byteAt_eq⟩
    rw [rest.flags_eq, number]
    by_cases here : pageNumber va = pageNumber page
    · rw [entryAt?_congr here, found]
      rfl
    · rw [pageNumber_eq_iff] at here
      refine congrArg _ (if_congr ?_ rfl rfl)
      omega
  | case3 count page memory missing error refused failed => simp at backed
  | case4 count page memory missing first mapped ih =>
    have number := page_number_succ (show page.toNat / 4096 + 1 < 1048576 by omega)
    have fresh := mapFresh sound unshared missing allowed mapped
    have rest := ih fresh.sound fresh.unshared (by omega) backed
    -- The run is its first page and the run behind that.
    refine (fresh.trans rest).congr (fun va => ?_) fun _ _ => rfl
    rw [number]
    simp only [pageNumber_eq_iff]
    by_cases here : va.toNat / 4096 = page.toNat / 4096
    · rw [if_pos here, Option.some_or, if_pos (by omega)]
    · rw [if_neg here, Option.none_or]
      refine if_congr ?_ rfl rfl
      omega

/-- A segment gives its permission to the pages that it is the first on, and its bytes to all. -/
theorem loadSegment {segment : Segment} (sound : memory.Sound size 0)
    (unshared : memory.Unshared handle)
    (loaded : memory.loadSegment handle segment = (.ok (), next)) :
    Places memory next handle size
      (fun va => if segment.Spans va then some segment.permission else none)
      (fun va old => segment.overlay va old) := by
  obtain ⟨fits, backed, provided, written⟩ := loadSegment_ok loaded
  have below := fits.below
  -- The pages that are provided are those on which the segment has an address.
  have number : (pageBase segment.va).toNat / 4096 = segment.va.toNat / 4096 := by
    rw [toNat_pageBase]
    omega
  have counted := fits.pagesSpanned_eq
  have pages := backPages (isUserPermission_segment segment) sound unshared
    (by rw [number, counted]; omega) provided
  rw [number, counted] at pages
  -- Writing moves no page, and what is written is found by pages that have frames of their own.
  have entries := backed.entryAt?_copyOut handle segment.va segment.contents
  have kept := pages.sound.copyOut handle segment.va segment.contents
  rw [written] at entries kept
  have length := fits.length_contents
  refine ⟨kept, pages.unshared.of_entries entries, fun va => ?_, fun va => ?_⟩
  · rw [entries, pages.flags_eq]
    exact congrArg _ (if_congr fits.spans_iff.symm rfl rfl)
  · rw [← pages.byteAt_eq]
    cases found : backed.entryAt? handle va with
    | some entry =>
      rw [byteAt_copyOut pages.sound.backed (by rw [length]; exact segment.length.toNat_lt.le)
        written found, fits.getD_contents]
      exact fun offset _ target there same => (pages.unshared va entry found _ _ _ there same).2
    | none =>
      -- The segment has no address on a page that is still missing.
      have outside : ¬segment.Covers va := by
        intro covers
        have missing := pages.flags_eq va
        rw [if_pos (fits.spans_iff.mp (fits.spans_of_covers covers)), found] at missing
        cases before : memory.entryAt? handle va <;> simp [before] at missing
      rw [Segment.overlay, if_neg outside, byteAt, byteAt, entries, found]

/-- The first segment on a page decides its permission, and the last one on a byte its value. -/
theorem loadSegments {segments : List Segment} (sound : memory.Sound size 0)
    (unshared : memory.Unshared handle)
    (loaded : memory.loadSegments handle segments = (.ok (), next)) :
    Places memory next handle size
      (fun va => (Segment.firstOn? segments va).map Segment.permission)
      (fun va old => ((Segment.lastAt? segments va).map (·.byteAt va)).getD old) := by
  -- Induct on the list: what the first segment leaves open or writes is up to the rest.
  fun_induction Memory.loadSegments handle segments memory with
  | case1 memory =>
    simp only [Prod.mk.injEq, true_and] at loaded
    subst loaded
    exact refl sound unshared
  | case2 segment rest memory error refused failed => simp at loaded
  | case3 segment rest memory first placed ih =>
    have before := loadSegment sound unshared placed
    have after := ih before.sound before.unshared loaded
    refine (before.trans after).congr (fun va => ?_) fun va old => ?_
    · rw [Segment.firstOn?_cons]
      split <;> rfl
    · rw [Segment.lastAt?_cons, Segment.overlay]
      cases Segment.lastAt? rest va with
      | some last => rfl
      | none =>
        rw [Option.none_or]
        split <;> rfl

end Places

/-- A space has exactly the pages of an image, with permissions and bytes, on frames of its own. -/
structure Carries (memory : Memory) (handle : SpaceHandle) (image : ProgramImage) : Prop where
  /-- The pages of the segments and the stack are mapped, and no others. -/
  mapped : ∀ va, (memory.entryAt? handle va).isSome = true ↔ image.Occupies va
  /-- Every page has the permission of the image. -/
  permitted : ∀ va entry, memory.entryAt? handle va = some entry →
    entry.flags = image.permissionAt va
  /-- No two pages have the same frame, and none has one of another space. -/
  unshared : memory.Unshared handle
  /-- Every address has the byte of the image. -/
  bytes : ∀ va, image.Occupies va → memory.byteAt handle va = image.byteAt va

/-- An image that is placed in an empty space is all that the space holds. -/
theorem carries_of_loadImage {image : ProgramImage} (sound : memory.Sound size 0)
    (empty : ∀ va, memory.entryAt? handle va = none)
    (loaded : memory.loadImage handle image = (.ok (), next)) : next.Carries handle image := by
  obtain ⟨placed, segments, stack⟩ := loadImage_ok loaded
  -- Nothing is shared to begin with, and loading shares nothing.
  have bare : memory.Unshared handle := fun va entry found => by simp [empty] at found
  have before := Places.loadSegments sound bare segments
  have number : (stackTop - pageSize).toNat / 4096 = 977917 := rfl
  have after := Places.backPages (by decide) before.sound before.unshared
    (by rw [number]; decide) stack
  rw [number] at after
  have whole := before.trans after
  -- The segments come before the stack, so they decide where both have the page.
  have flags (va : Address) : (next.entryAt? handle va).map PageEntry.flags =
      if image.Occupies va then some (image.permissionAt va) else none := by
    have given := whole.flags_eq va
    rw [empty, Option.map_none, Option.none_or] at given
    rw [given, ProgramImage.permissionAt]
    cases first : Segment.firstOn? image.segments va with
    | some segment =>
      have occupied : image.Occupies va :=
        .inl ⟨segment, List.mem_of_find?_eq_some first, by simpa using List.find?_some first⟩
      rw [if_pos occupied]
      rfl
    | none =>
      have outside : ¬∃ segment ∈ image.segments, segment.Spans va := by
        simpa [Segment.firstOn?] using first
      rw [Option.map_none, Option.none_or]
      refine if_congr ?_ rfl rfl
      rw [ProgramImage.Occupies, or_iff_right outside, onStack_iff]
      omega
  -- Where there is a page, with which permission, and with which bytes.
  refine ⟨fun va => ?_, fun va entry found => ?_, whole.unshared, fun va occupied => ?_⟩
  · have decided := congrArg Option.isSome (flags va)
    rw [Option.isSome_map] at decided
    rw [decided]
    split <;> simp_all
  · have decided := flags va
    rw [found, Option.map_some] at decided
    split at decided
    · exact Option.some.inj decided
    · simp at decided
  · have before : memory.byteAt handle va = 0 := by rw [byteAt, empty]
    rw [whole.byteAt_eq, before, ProgramImage.byteAt]
    cases Segment.lastAt? image.segments va <;> rfl

end Memory

end Exokernel
