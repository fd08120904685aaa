import Exokernel.Proofs.Memory.Provenance

/-! Bytes at the addresses of a space, after ranges of them were written. -/

namespace Exokernel

/-- A byte that is replaced is found at its own offset only. -/
theorem Page.byteAt_setByte (page : Page) (offset other : Nat) (byte : UInt8) :
    (page.setByte offset byte).byteAt other =
      if other % pageLength = offset % pageLength then byte else page.byteAt other := by
  -- Places in a page are counted modulo its length, on both sides.
  have index (place : Nat) : (Fin.ofNat pageLength place).val = place % pageLength := rfl
  simp only [byteAt, setByte, Vector.get_eq_getElem, Vector.getElem_set, index]
  by_cases same : other % pageLength = offset % pageLength
  · rw [if_pos same.symm, if_pos same]
  · rw [if_neg (Ne.symm same), if_neg same]

/-- A byte that is replaced in a frame is found there at its own offset only. -/
theorem FramePool.byteAt_setByte {pool : FramePool} {frame : FrameNumber}
    (exists_ : frame < pool.frames.size) (offset other : Nat) (byte : UInt8) :
    (pool.setByte frame offset byte).byteAt frame other =
      if other % pageLength = offset % pageLength then byte else pool.byteAt frame other := by
  -- The frame exists, so that it is the one that is changed.
  have found : pool.frames[frame]? = some pool.frames[frame] := Array.getElem?_eq_getElem exists_
  have changed : (pool.setByte frame offset byte).page frame =
      (pool.page frame).setByte offset byte := by
    simp only [page, setByte, modify, Array.getElem?_modify, if_true, found, Option.map_some]
  rw [byteAt, changed, Page.byteAt_setByte]
  rfl

/-- Writing a byte leaves the bytes of other frames alone, and those at other offsets. -/
theorem FramePool.byteAt_setByte_of_apart {pool : FramePool} {frame other : FrameNumber}
    (exists_ : frame < pool.frames.size) {offset place : Nat} (inside : offset < pageLength)
    (placed : place < pageLength) (apart : frame = other → place ≠ offset) (byte : UInt8) :
    (pool.setByte frame offset byte).byteAt other place = pool.byteAt other place := by
  -- The byte is in the same frame at another place, or in another frame.
  by_cases same : frame = other
  · rw [← same, FramePool.byteAt_setByte exists_, Nat.mod_eq_of_lt placed, Nat.mod_eq_of_lt inside,
      if_neg (apart same)]
  · rw [FramePool.byteAt, FramePool.byteAt,
      show (pool.setByte frame offset byte).page other = pool.page other from
        pool.page_modify_other _ (Ne.symm same)]

/-- The distance from the address behind another one is one less, except from that other one. -/
theorem toNat_sub_succ {va other : Address} (different : other ≠ va) :
    (other - va).toNat = (other - (va + 1)).toNat + 1 := by
  -- Distances wrap around, and the address behind is different from both ends.
  have numbers : other.toNat ≠ va.toNat := fun same => different (UInt32.toNat_inj.mp same)
  have first := other.toNat_lt
  have second := va.toNat_lt
  simp only [UInt32.toNat_sub, UInt32.toNat_add, UInt32.reduceToNat]
  omega

/-- An address is as far behind its successor as can be. -/
theorem toNat_sub_succ_self (va : Address) : (va - (va + 1)).toNat = 4294967295 := by
  -- One step back wraps around all addresses.
  have bound := va.toNat_lt
  simp only [UInt32.toNat_sub, UInt32.toNat_add, UInt32.reduceToNat]
  omega

/-- Two addresses of one page with the same offset are the same. -/
theorem eq_of_pageNumber_eq {va other : Address} (page : pageNumber va = pageNumber other)
    (offset : (va % pageSize).toNat = (other % pageSize).toNat) : va = other := by
  -- Quotient and remainder together make the number.
  have numbers := pageNumber_eq_iff.mp page
  simp only [UInt32.toNat_mod, toNat_pageSize] at offset
  refine UInt32.toNat_inj.mp ?_
  omega

/-- The offset of an address in its page. -/
theorem pageOffset_lt (va : Address) : (va % pageSize).toNat < pageLength := by
  -- It is a remainder by the length of the page.
  rw [UInt32.toNat_mod, toNat_pageSize]
  exact Nat.mod_lt _ (by decide)

namespace Memory

variable {memory next : Memory} {handle : SpaceHandle} {va : Address}

/-- Every frame that is mapped exists. -/
def Backed (memory : Memory) : Prop :=
  ∀ handle va entry, memory.entryAt? handle va = some entry →
    entry.frame < memory.pool.frames.size

/-- A frame that is referenced exists. -/
theorem Sound.backed {size : Nat} {held : Multiset FrameNumber}
    (sound : memory.Sound size held) : memory.Backed := by
  -- A frame that does not exist has no references.
  intro handle va entry found
  have referenced := sound.refs_pos found
  by_contra outside
  have absent : memory.pool.frames[entry.frame]? = none :=
    Array.getElem?_eq_none (Nat.le_of_not_lt outside)
  simp [FramePool.refs, absent] at referenced

/-- Frames that are mapped stay there while a byte is written. -/
theorem Backed.setByte (backed : memory.Backed) (frame : FrameNumber) (offset : Nat)
    (byte : UInt8) :
    ({ memory with pool := memory.pool.setByte frame offset byte } : Memory).Backed := by
  -- The pool keeps its number of frames.
  intro handle va entry found
  show entry.frame < (memory.pool.frames.modify _ _).size
  rw [Array.size_modify]
  exact backed handle va entry found

/-- A byte of a space is one of the frame that its page is mapped to. -/
theorem byteAt_of_entry {entry : PageEntry} (found : memory.entryAt? handle va = some entry) :
    memory.byteAt handle va = memory.pool.byteAt entry.frame (va % pageSize).toNat := by
  -- The address is mapped, so that it does not read as zero.
  simp only [byteAt, found]

/-- Where the same contents are mapped, the same bytes are found at the same offsets. -/
theorem byteAt_of_frame {first second : SpaceHandle} {place : Address} {entry other : PageEntry}
    (before : memory.entryAt? first place = some entry)
    (after : next.entryAt? second va = some other)
    (offset : (va % pageSize).toNat = (place % pageSize).toNat)
    (same : next.pool.page other.frame = memory.pool.page entry.frame) :
    next.byteAt second va = memory.byteAt first place := by
  -- Each side is read in its frame, and the frames have the same page.
  rw [byteAt_of_entry before, byteAt_of_entry after, FramePool.byteAt, FramePool.byteAt, same,
    offset]

/-- Where the same frames are mapped with the same contents, the same bytes are found. -/
theorem byteAt_congr {first second : SpaceHandle} {entry other : PageEntry}
    (before : memory.entryAt? first va = some entry) (after : next.entryAt? second va = some other)
    (same : next.pool.page other.frame = memory.pool.page entry.frame) :
    next.byteAt second va = memory.byteAt first va :=
  byteAt_of_frame before after rfl same

/-- Entries stay while bytes are written. -/
@[simp] theorem entryAt?_copyOut (memory : Memory) (handle : SpaceHandle) (va : Address)
    (bytes : List UInt8) (other : SpaceHandle) (place : Address) :
    (memory.copyOut handle va bytes).2.entryAt? other place = memory.entryAt? other place := by
  -- Bytes go to frames, and no space changes.
  rw [entryAt?, table?_congr (memory.spaces_copyOut handle va bytes).1, ← entryAt?]

/--
A written byte is found at its address, and the others stay.

It takes that no other address of the range is mapped to the byte that is looked at.
-/
theorem byteAt_copyOut_of_apart (backed : memory.Backed) {bytes : List UInt8}
    (short : bytes.length ≤ addressCount)
    (written : memory.copyOut handle va bytes = (.ok (), next))
    {other : Address} {entry : PageEntry} (found : memory.entryAt? handle other = some entry)
    (apart : ∀ offset < bytes.length, ∀ target,
      memory.entryAt? handle (va + UInt32.ofNat offset) = some target →
        target.frame = entry.frame →
        ((va + UInt32.ofNat offset) % pageSize).toNat = (other % pageSize).toNat →
        va + UInt32.ofNat offset = other) :
    next.byteAt handle other =
      bytes[(other - va).toNat]?.getD (memory.byteAt handle other) := by
  -- Induct on the bytes: after the first one, the rest goes to the addresses behind it.
  fun_induction copyOut memory handle va bytes with
  | case1 =>
    simp only [Prod.mk.injEq, true_and] at written
    rw [← written]
    rfl
  | case2 => simp at written
  | case3 memory va byte rest first mapped pool ih =>
    have kept := backed.setByte first.frame (va % pageSize).toNat byte
    have later := ih kept (by simp only [List.length_cons] at short; omega) written found
      (fun offset inside target there same place => by
        rw [← offset_succ] at there place ⊢
        exact apart (offset + 1) (by simpa using inside) target there same place)
    rw [later]
    have here : ({ memory with pool } : Memory).byteAt handle other =
        pool.byteAt entry.frame (other % pageSize).toNat := byteAt_of_entry found
    by_cases now : other = va
    · -- The range is too short to come around to its first address again.
      subst now
      rw [mapped, Option.some.injEq] at found
      subst found
      have ended : rest[4294967295]? = none := by
        have count : addressCount = 4294967296 := rfl
        refine List.getElem?_eq_none ?_
        simp only [List.length_cons] at short
        omega
      rw [toNat_sub_succ_self, ended, Option.getD_none, here,
        FramePool.byteAt_setByte (backed handle other first mapped), if_pos rfl, UInt32.sub_self]
      rfl
    · have unchanged : pool.byteAt entry.frame (other % pageSize).toNat =
          memory.byteAt handle other := by
        rw [byteAt_of_entry found]
        refine FramePool.byteAt_setByte_of_apart (backed handle va first mapped) (pageOffset_lt va)
          (pageOffset_lt other) (fun shared offset => now ?_) byte
        simpa using (apart 0 (by simp) first (by simpa using mapped) shared
          (by simpa using offset.symm)).symm
      rw [toNat_sub_succ now, List.getElem?_cons_succ, here, unchanged]

/--
A written byte is found at its address, and the others stay.

It takes that no other page of the range is mapped to the frame that is looked at.
-/
theorem byteAt_copyOut (backed : memory.Backed) {bytes : List UInt8}
    (short : bytes.length ≤ addressCount)
    (written : memory.copyOut handle va bytes = (.ok (), next))
    {other : Address} {entry : PageEntry} (found : memory.entryAt? handle other = some entry)
    (single : ∀ offset < bytes.length, ∀ target,
      memory.entryAt? handle (va + UInt32.ofNat offset) = some target →
        target.frame = entry.frame → pageNumber (va + UInt32.ofNat offset) = pageNumber other) :
    next.byteAt handle other =
      bytes[(other - va).toNat]?.getD (memory.byteAt handle other) :=
  byteAt_copyOut_of_apart backed short written found fun offset inside target there same place =>
    eq_of_pageNumber_eq (single offset inside target there same) place

/-- A byte of a frame stays where no address of the range is mapped to it. -/
theorem poolByte_copyOut (backed : memory.Backed) {bytes : List UInt8} {frame : FrameNumber}
    {place : Nat} (low : place < pageLength)
    (apart : ∀ offset < bytes.length, ∀ target,
      memory.entryAt? handle (va + UInt32.ofNat offset) = some target → target.frame = frame →
        ((va + UInt32.ofNat offset) % pageSize).toNat ≠ place) :
    (memory.copyOut handle va bytes).2.pool.byteAt frame place =
      memory.pool.byteAt frame place := by
  -- Induct on the bytes: the first one goes elsewhere, and so does the rest.
  fun_induction copyOut memory handle va bytes with
  | case1 => rfl
  | case2 => rfl
  | case3 memory va byte rest first mapped pool ih =>
    have kept := backed.setByte first.frame (va % pageSize).toNat byte
    rw [ih kept fun offset inside target there same => by
      rw [← offset_succ] at there ⊢
      exact apart (offset + 1) (by simpa using inside) target there same]
    refine FramePool.byteAt_setByte_of_apart (backed handle va first mapped) (pageOffset_lt va) low
      (fun here => ?_) byte
    have elsewhere := apart 0 (by simp) first (by simpa using mapped) here
    simpa using elsewhere.symm

/-- Two memories differ at most in the bytes that are found at the addresses of a range. -/
structure DiffersWithin (memory : Memory) (handle : SpaceHandle) (va : Address) (length : Nat)
    (next : Memory) : Prop where
  /-- Every space has the same mappings. -/
  spaces_eq : next.spaces = memory.spaces
  /-- The same space is in use. -/
  active_eq : next.active = memory.active
  /-- The same frames are free, in the same order. -/
  free_eq : next.pool.free = memory.pool.free
  /-- The next allocation is bound to fail if it was before. -/
  failNext_eq : next.pool.failNext = memory.pool.failNext
  /-- Every frame has as many references. -/
  refs_eq : ∀ frame, next.pool.refs frame = memory.pool.refs frame
  /-- A byte of a frame is the same if no address of the range is mapped to it. -/
  bytes_eq : ∀ frame, ∀ place < pageLength, (∀ offset < length, ∀ target,
    memory.entryAt? handle (va + UInt32.ofNat offset) = some target → target.frame = frame →
      ((va + UInt32.ofNat offset) % pageSize).toNat ≠ place) →
    next.pool.byteAt frame place = memory.pool.byteAt frame place

/-- Writing changes neither the counters nor the next allocation. -/
theorem counters_copyOut (memory : Memory) (handle : SpaceHandle) (va : Address)
    (bytes : List UInt8) :
    (memory.copyOut handle va bytes).2.pool.failNext = memory.pool.failNext ∧
      ∀ frame, (memory.copyOut handle va bytes).2.pool.refs frame = memory.pool.refs frame := by
  -- Induct on the bytes, each of which changes the page of a frame and nothing else.
  fun_induction copyOut memory handle va bytes with
  | case1 => exact ⟨rfl, fun _ => rfl⟩
  | case2 => exact ⟨rfl, fun _ => rfl⟩
  | case3 memory va byte rest entry found pool ih =>
    exact ⟨ih.1, fun frame => (ih.2 frame).trans
      (memory.pool.refs_modify_of_refs_eq entry.frame frame fun _ => rfl)⟩

/-- Writing changes nothing but the bytes at the addresses of the range. -/
theorem differsWithin_copyOut (backed : memory.Backed) (handle : SpaceHandle) (va : Address)
    (bytes : List UInt8) :
    memory.DiffersWithin handle va bytes.length (memory.copyOut handle va bytes).2 where
  spaces_eq := (memory.spaces_copyOut handle va bytes).1
  active_eq := (memory.spaces_copyOut handle va bytes).2
  free_eq := free_copyOut memory handle va bytes
  failNext_eq := (memory.counters_copyOut handle va bytes).1
  refs_eq := (memory.counters_copyOut handle va bytes).2
  bytes_eq _ _ low apart := poolByte_copyOut backed low apart

/-- Bytes can be read where every address of the range is mapped. -/
theorem copyIn_of_mapped {length : Nat} (mapped : ∀ offset < length,
    (memory.entryAt? handle (va + UInt32.ofNat offset)).isSome = true) :
    memory.copyIn handle va length =
      .ok ((addressRange va length).map (memory.byteAt handle)) := by
  -- The search for an unmapped address comes to nothing.
  have none_missing : firstAddress (memory.isUnmapped handle) length va = none := by
    refine firstAddress_of_all fun offset inside => ?_
    simp [isUnmapped, mapped offset inside]
  simp only [copyIn, none_missing]

/-- The byte that is read at an offset is the one at that address. -/
theorem getElem?_addressRange {length offset : Nat} (inside : offset < length)
    (byte : Address → UInt8) :
    ((addressRange va length).map byte)[offset]? = some (byte (va + UInt32.ofNat offset)) := by
  -- The list is made of the offsets in order.
  rw [List.getElem?_map, addressRange, List.getElem?_map, List.getElem?_range inside]
  rfl

/-- In a range that is no longer than a page, addresses with the same offset are the same. -/
theorem eq_of_offset_eq {first second : Nat} (within : first < pageLength)
    (inside : second < pageLength)
    (same : ((va + UInt32.ofNat first) % pageSize).toNat =
      ((va + UInt32.ofNat second) % pageSize).toNat) : first = second := by
  -- Offsets differ by less than a page, so that their remainders tell them apart.
  have length : pageLength = 4096 := rfl
  simp only [UInt32.toNat_mod, toNat_pageSize, UInt32.toNat_add, UInt32.toNat_ofNat'] at same
  omega

/-- Bytes that were written are found at their offsets, if the range is no longer than a page. -/
theorem byteAt_written (backed : memory.Backed) {bytes : List UInt8}
    (short : bytes.length ≤ pageLength)
    (written : memory.copyOut handle va bytes = (.ok (), next))
    {offset : Nat} (inside : offset < bytes.length)
    (mapped : (memory.entryAt? handle (va + UInt32.ofNat offset)).isSome = true) :
    next.byteAt handle (va + UInt32.ofNat offset) = bytes[offset] := by
  obtain ⟨entry, found⟩ := Option.isSome_iff_exists.mp mapped
  have length : pageLength = 4096 := rfl
  have count : addressCount = 4294967296 := rfl
  -- The range is too short to come back to a page, so that every byte has a place.
  rw [byteAt_copyOut_of_apart backed (by omega) written found fun other within _ _ _ same => by
      rw [eq_of_offset_eq (by omega) (by omega) same],
    toNat_add_ofNat_sub va (by omega), List.getElem?_eq_getElem inside]
  rfl

/-- Bytes that were written are read back, if the range is no longer than a page. -/
theorem read_copyOut (backed : memory.Backed) {bytes : List UInt8}
    (short : bytes.length ≤ pageLength)
    (written : memory.copyOut handle va bytes = (.ok (), next))
    (mapped : ∀ offset < bytes.length,
      (memory.entryAt? handle (va + UInt32.ofNat offset)).isSome = true) :
    (addressRange va bytes.length).map (next.byteAt handle) = bytes := by
  -- Compare the two lists place by place.
  refine List.ext_getElem? fun offset => ?_
  by_cases inside : offset < bytes.length
  · rw [getElem?_addressRange inside, List.getElem?_eq_getElem inside,
      byteAt_written backed short written inside (mapped offset inside)]
  · rw [List.getElem?_eq_none (by simpa [addressRange] using Nat.le_of_not_lt inside),
      List.getElem?_eq_none (Nat.le_of_not_lt inside)]

end Memory

end Exokernel
