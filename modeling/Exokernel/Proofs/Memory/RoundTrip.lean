import Exokernel.Proofs.Memory.Histories
import Exokernel.Proofs.UserAccesses

/-! Bytes that are copied out to a space are copied in again, up to the first unmapped address. -/

namespace Exokernel

/-- Bytes that fit on the rest of a page are placed there one by one. -/
theorem FramePool.overlay_cons (pool : FramePool) (frame : FrameNumber) {offset : Nat}
    (inside : offset < pageLength) (byte : UInt8) (rest : List UInt8) :
    pool.overlay frame offset (byte :: rest) =
      (pool.setByte frame offset byte).overlay frame (offset + 1) rest := by
  -- Both sides change the same frame, once or twice.
  simp only [overlay, setByte, modify, Page.overlay, if_pos inside]
  congr 1
  refine Array.ext (by simp) fun index here there => ?_
  simp only [Array.getElem_modify]
  split <;> rfl

/-- To overlay no bytes changes nothing. -/
theorem FramePool.overlay_nil (pool : FramePool) (frame : FrameNumber) (offset : Nat) :
    pool.overlay frame offset [] = pool := by
  -- The frame is changed into itself, and so every frame is.
  simp only [overlay, modify, Page.overlay]
  congr 1
  refine Array.ext (by simp) fun index here there => ?_
  simp only [Array.getElem_modify]
  split <;> rfl

/-- The byte behind an address that does not end its page is on the same page, one place later. -/
theorem offset_of_pageRest {va : Address} (more : 1 < pageRest va) :
    ((va + 1) % pageSize).toNat = (va % pageSize).toNat + 1 ∧
      pageRest (va + 1) = pageRest va - 1 := by
  -- With two bytes left on the page, the next address does not wrap around.
  have length : pageLength = 4096 := rfl
  have bound := va.toNat_lt
  simp only [pageRest, UInt32.toNat_mod, toNat_pageSize, UInt32.toNat_add, UInt32.reduceToNat]
    at more ⊢
  omega

/-- The bytes of a page from an offset on, one after another. -/
theorem Page.slice_eq (page : Page) {offset count : Nat} (inside : offset + count ≤ pageLength) :
    page.slice offset count = (List.range count).map fun step => page.byteAt (offset + step) := by
  refine List.ext_getElem? fun index => ?_
  -- Compare the two lists at each index, inside and past their common end.
  by_cases here : index < count
  · have within : offset + index < pageLength := by omega
    rw [slice, List.getElem?_take_of_lt here, List.getElem?_drop, List.getElem?_map,
      List.getElem?_range here, Option.map_some, byteAt, Vector.get_eq_getElem]
    have index_eq : (Fin.ofNat pageLength (offset + index)).val = offset + index :=
      Nat.mod_eq_of_lt within
    simp only [index_eq]
    rw [List.getElem?_eq_getElem (by simpa using within), Vector.getElem_toList]
  · rw [List.getElem?_eq_none (by rw [slice, List.length_take]; omega),
      List.getElem?_eq_none (by simpa using here)]

namespace FramePool

section Sizes

variable (pool : FramePool)

/-- To allocate a frame adds none to the pool. -/
theorem size_alloc : pool.alloc.2.frames.size = pool.frames.size := by
  -- The frame is taken off the list and filled with zeros, where it is.
  unfold alloc
  split
  · rfl
  · split
    · rfl
    · exact size_modify _ _ _

/-- To free a frame takes none out of the pool. -/
theorem size_release (frame : FrameNumber) :
    (pool.release frame).frames.size = pool.frames.size := by
  -- Only the list grows.
  unfold release
  split <;> rfl

/-- To drop a reference leaves as many frames. -/
theorem size_decref (frame : FrameNumber) :
    (pool.decref frame).frames.size = pool.frames.size := by
  -- The count is lowered, and then the frame may be freed.
  rw [decref, size_release, lower, size_modify]

/-- However many references are dropped, there are as many frames. -/
theorem size_foldl_decref (frames : List FrameNumber) :
    (frames.foldl decref pool).frames.size = pool.frames.size := by
  -- Induct on the list of references.
  induction frames generalizing pool with
  | nil => rfl
  | cons frame rest ih => rw [List.foldl_cons, ih, size_decref]

end Sizes

end FramePool

namespace PageTable

variable (table : PageTable) (pool : FramePool)

/-- To make a directory leaves as many frames. -/
theorem size_create : (create pool).2.frames.size = pool.frames.size := by
  -- There is no frame for it, or its frame gains a reference.
  have taken := pool.size_alloc
  unfold create
  split <;> rename_i allocated <;> rw [allocated] at taken
  · exact taken
  · exact (FramePool.size_modify _ _ _).trans taken

/-- To make a page table leaves as many frames. -/
theorem size_ensureTable (va : Address) :
    (table.ensureTable pool va).2.frames.size = pool.frames.size := by
  -- There is one, or there is no frame for it, or its frame gains a reference.
  have taken := pool.size_alloc
  simp only [ensureTable]
  split
  · rfl
  · split <;> rename_i allocated <;> rw [allocated] at taken
    · exact taken
    · exact (FramePool.size_modify _ _ _).trans taken

/-- To map a page leaves as many frames. -/
theorem size_insert (va : Address) (frame : FrameNumber) (flags : PageFlags) :
    (table.insert pool va frame flags).2.frames.size = pool.frames.size := by
  have ensured := table.size_ensureTable pool va
  simp only [insert]
  split <;> rename_i provided <;> rw [provided] at ensured
  · exact ensured
  · -- The new frame gains a reference, and one that was mapped before loses one.
    split
    · rw [FramePool.size_decref, FramePool.incref, FramePool.size_modify, ensured]
    · rw [FramePool.incref, FramePool.size_modify, ensured]

end PageTable

namespace Memory

variable {memory next : Memory} {handle : SpaceHandle} {va : Address} {data : List UInt8}

/-- Writes bytes page by page, as far as the pages are mapped. -/
def copyOutByPages (memory : Memory) (handle : SpaceHandle) (va : Address) (data : List UInt8) :
    Except Address Unit × Memory :=
  -- One look at each page; the first and the last one may be written in part.
  if data = [] then (.ok (), memory)
  else match memory.entryAt? handle va with
    | none => (.error va, memory)
    | some entry =>
      let count := min (pageRest va) data.length
      let pool := memory.pool.overlay entry.frame (va % pageSize).toNat (data.take count)
      copyOutByPages { memory with pool } handle (va + UInt32.ofNat count) (data.drop count)
termination_by data.length
decreasing_by
  have step := pageRest_pos va
  have some_ := List.length_pos_of_ne_nil ‹_›
  simp only [List.length_drop]
  omega

/-- Reads bytes page by page, unless a page is not mapped. -/
def copyInByPages (memory : Memory) (handle : SpaceHandle) (va : Address) (length : Nat) :
    Except Address (List UInt8) :=
  if length = 0 then .ok []
  else match memory.entryAt? handle va with
    | none => .error va
    | some entry =>
      -- What the page has up to its end is read at once.
      let count := min (pageRest va) length
      let bytes := (memory.pool.page entry.frame).slice (va % pageSize).toNat count
      (copyInByPages memory handle (va + UInt32.ofNat count) (length - count)).map (bytes ++ ·)
termination_by length
decreasing_by
  have step := pageRest_pos va
  omega

/-- Bytes are written in order: those behind others only once the others are written. -/
theorem copyOut_append (memory : Memory) (handle : SpaceHandle) (va : Address)
    (first rest : List UInt8) :
    memory.copyOut handle va (first ++ rest) =
      match memory.copyOut handle va first with
      | (.ok (), written) => written.copyOut handle (va + UInt32.ofNat first.length) rest
      | (.error bad, written) => (.error bad, written) := by
  -- Induct on the bytes that come first.
  fun_induction copyOut memory handle va first with
  | case1 memory va => simp
  | case2 memory va byte first missing => simp only [List.cons_append, copyOut, missing]
  | case3 memory va byte first entry found pool ih =>
    rw [List.cons_append, copyOut, found, List.length_cons, offset_succ]
    exact ih

/-- Bytes on the rest of one mapped page are written to its frame in one go. -/
theorem copyOut_on_page {entry : PageEntry} (found : memory.entryAt? handle va = some entry)
    (short : data.length ≤ pageRest va) :
    memory.copyOut handle va data =
      (.ok (), { memory with
        pool := memory.pool.overlay entry.frame (va % pageSize).toNat data }) := by
  -- Induct on the bytes; each of them finds the entry that the first one has found.
  induction data generalizing memory va with
  | nil => rw [copyOut, FramePool.overlay_nil]
  | cons byte rest ih =>
    rw [copyOut, found, FramePool.overlay_cons _ _ (pageOffset_lt va)]
    dsimp only
    cases rest with
    | nil => rw [copyOut, FramePool.overlay_nil]
    | cons second rest =>
      simp only [List.length_cons] at short
      have more : 1 < pageRest va := by omega
      obtain ⟨place, left⟩ := offset_of_pageRest more
      have there : ({ memory with
          pool := memory.pool.setByte entry.frame (va % pageSize).toNat byte } : Memory).entryAt?
            handle (va + 1) = some entry :=
        (entryAt?_congr (pageNumber_add_of_lt more)).trans found
      have later := ih there (by simp only [List.length_cons]; omega)
      rw [place] at later
      exact later

/-- To write page by page comes to the same as to write byte by byte. -/
theorem copyOut_eq_copyOutByPages (memory : Memory) (handle : SpaceHandle) (va : Address)
    (data : List UInt8) :
    memory.copyOut handle va data = memory.copyOutByPages handle va data := by
  -- Induct on the pages, each of which takes the bytes up to its end.
  fun_induction copyOutByPages memory handle va data with
  | case1 => rfl
  | case2 memory va data some_ missing =>
    obtain ⟨byte, rest, rfl⟩ := List.exists_cons_of_ne_nil some_
    rw [copyOut, missing]
  | case3 memory va data some_ entry found count pool ih =>
    have length : (data.take count).length = count := List.length_take_of_le (min_le_right _ _)
    rw [← ih]
    conv_lhs => rw [← List.take_append_drop count data]
    rw [copyOut_append, copyOut_on_page found (by rw [length]; exact min_le_left _ _), length]

/-- A test for unmapped addresses treats all addresses of a page alike. -/
theorem isUnmapped_congr {other : Address} (page : pageNumber va = pageNumber other) :
    memory.isUnmapped handle va = memory.isUnmapped handle other := by
  -- The test looks at nothing but the entry, which all addresses of a page share.
  rw [isUnmapped, isUnmapped, entryAt?_congr page]

/-- The bytes on the rest of one mapped page are those of its frame. -/
theorem slice_eq_of_entry {entry : PageEntry} (found : memory.entryAt? handle va = some entry)
    {count : Nat} (short : count ≤ pageRest va) :
    (memory.pool.page entry.frame).slice (va % pageSize).toNat count =
      (addressRange va count).map (memory.byteAt handle) := by
  have low := pageOffset_lt va
  rw [pageRest] at short
  rw [Page.slice_eq _ (by omega), addressRange, List.map_map]
  refine List.map_congr_left fun offset inside => ?_
  have before : offset < pageRest va := by
    rw [pageRest]
    have := List.mem_range.mp inside
    omega
  -- Within the rest of the page, addresses and places in the frame run in step.
  have place : ((va + UInt32.ofNat offset) % pageSize).toNat = (va % pageSize).toNat + offset := by
    have length : pageLength = 4096 := rfl
    simp only [UInt32.toNat_mod, toNat_pageSize, UInt32.toNat_add, UInt32.toNat_ofNat'] at low ⊢
    rw [pageRest, UInt32.toNat_mod, toNat_pageSize] at before
    omega
  rw [Function.comp_apply,
    byteAt_of_entry ((entryAt?_congr (pageNumber_add_of_lt before)).trans found), place]
  rfl

/-- The addresses of a range are those of its beginning, and those behind it. -/
theorem addressRange_add (va : Address) (count rest : Nat) :
    addressRange va (count + rest) =
      addressRange va count ++ addressRange (va + UInt32.ofNat count) rest := by
  -- The distances behind the beginning start again at zero.
  simp only [addressRange, List.range_add, List.map_append, List.map_map]
  refine congrArg _ (List.map_congr_left fun offset _ => ?_)
  rw [Function.comp_apply, UInt32.ofNat_add, UInt32.add_assoc]

/-- To read page by page comes to the same as to read byte by byte. -/
theorem copyIn_eq_copyInByPages (memory : Memory) (handle : SpaceHandle) (va : Address)
    (length : Nat) : memory.copyIn handle va length = memory.copyInByPages handle va length := by
  -- Induct on the pages, each of which gives the bytes up to its end.
  fun_induction copyInByPages memory handle va length with
  | case1 => rfl
  | case2 va length some_ missing =>
    obtain ⟨rest, rfl⟩ := Nat.exists_eq_succ_of_ne_zero some_
    have first : memory.isUnmapped handle va = true := by rw [isUnmapped, missing]; rfl
    simp only [copyIn, firstAddress, first, if_true]
  | case3 va length some_ entry found count bytes ih =>
    have mapped : ∀ offset < count,
        memory.isUnmapped handle (va + UInt32.ofNat offset) = false := by
      intro offset inside
      rw [isUnmapped_congr (pageNumber_add_of_lt (inside.trans_le (min_le_left _ _))), isUnmapped,
        found]
      rfl
    have whole : length = count + (length - count) :=
      (Nat.add_sub_cancel' (min_le_right _ _)).symm
    rw [← ih, copyIn, firstAddress_skip count mapped, copyIn]
    cases firstAddress (memory.isUnmapped handle) (length - count) (va + UInt32.ofNat count) with
    | some bad => rfl
    | none =>
      conv_lhs => rw [whole, addressRange_add, List.map_append]
      rw [show bytes = _ from slice_eq_of_entry found (min_le_left _ _)]
      rfl

/--
The byte with a number is mapped in a space.

Numbers do not wrap around, so that what lies past the last address is never mapped.
-/
def IsMapped (memory : Memory) (handle : SpaceHandle) (byte : Nat) : Prop :=
  ∃ va : Address, va.toNat = byte ∧ (memory.entryAt? handle va).isSome = true

/-- No two pages that a range meets are mapped to the same frame. -/
def Unaliased (memory : Memory) (handle : SpaceHandle) (va : Address) (length : Nat) : Prop :=
  -- Two addresses of one page have one frame, and that is no alias.
  ∀ first second : Address, first.toNat ∈ Set.Ico va.toNat (va.toNat + length) →
    second.toNat ∈ Set.Ico va.toNat (va.toNat + length) → ∀ entry other,
      memory.entryAt? handle first = some entry → memory.entryAt? handle second = some other →
        entry.frame = other.frame → pageNumber first = pageNumber second

/-- Data stands at the addresses of a range, and nothing else has changed. -/
structure Stored (memory : Memory) (handle : SpaceHandle) (va : Address) (data : List UInt8)
    (next : Memory) : Prop extends memory.DiffersWithin handle va data.length next where
  /-- Each byte is found in the frame that its address is mapped to. -/
  stored : ∀ offset (inside : offset < data.length), ∃ entry,
    memory.entryAt? handle (va + UInt32.ofNat offset) = some entry ∧
      next.pool.byteAt entry.frame ((va + UInt32.ofNat offset) % pageSize).toNat = data[offset]

/-- What is copied out to a range can be copied in again, or both fail at the same address. -/
structure RoundTrips (memory : Memory) (handle : SpaceHandle) (va : Address) (data : List UInt8) :
    Prop where
  /-- Copying out succeeds exactly if every address of the range is mapped. -/
  succeeds : (memory.copyOut handle va data).1 = .ok () ↔
    ∀ byte ∈ Set.Ico va.toNat (va.toNat + data.length), memory.IsMapped handle byte
  /-- Then the data stands there, nothing else has changed, and the data is copied in again. -/
  returns : ∀ next, memory.copyOut handle va data = (.ok (), next) →
    memory.Stored handle va data next ∧ next.copyIn handle va data.length = .ok data
  /-- Otherwise both fail at the least unmapped address, before which the data has been written. -/
  fails : (∃ byte ∈ Set.Ico va.toNat (va.toNat + data.length), ¬memory.IsMapped handle byte) →
    ∃ bad next,
      IsLeast {byte ∈ Set.Ico va.toNat (va.toNat + data.length) | ¬memory.IsMapped handle byte}
        bad.toNat ∧
      (bad = va ∨ isAligned bad = true) ∧
      memory.copyOut handle va data = (.error bad, next) ∧
      memory.copyIn handle va data.length = .error bad ∧
      next.copyIn handle va data.length = .error bad ∧
      memory.Stored handle va (data.take (bad.toNat - va.toNat)) next
  /-- Both may as well be done page by page. -/
  byPages : memory.copyOut handle va data = memory.copyOutByPages handle va data ∧
    ∀ next : Memory,
      next.copyIn handle va data.length = next.copyInByPages handle va data.length

/-- Nothing is mapped at or above the end of user memory. -/
def Bounded (memory : Memory) : Prop :=
  ∀ handle va entry, memory.entryAt? handle va = some entry → va < userTop

/--
Memory as it comes about by operations on it, and by whatever happens to a machine that has it.

Only frames that exist are mapped.
-/
inductive Reachable : Memory → Prop where
  /-- No frame is taken, and no space is there. -/
  | start (count : Nat) : Reachable (ofFrames count)
  /-- A machine has run. -/
  | run (config : Config) (events : List MachineEvent) :
    Reachable (Machine.after config events).kernel.memory
  /-- Spaces or frames are operated on. -/
  | step {memory : Memory} (reachable : Reachable memory) (event : MemoryEvent)
    (exists_ : ∀ handle va frame flags, event = .map handle va frame flags →
      frame < memory.pool.frames.size) : Reachable (memory.step event)
  /-- Bytes are copied out to a space. -/
  | copyOut {memory : Memory} (reachable : Reachable memory) (handle : SpaceHandle) (va : Address)
    (data : List UInt8) : Reachable (memory.copyOut handle va data).2
  /-- The contents of a frame are changed. -/
  | overlay {memory : Memory} (reachable : Reachable memory) (frame : FrameNumber) (offset : Nat)
    (data : List UInt8) :
    Reachable { memory with pool := memory.pool.overlay frame offset data }

/-- Whether a range is unaliased can be told from its addresses, one after another. -/
theorem unaliased_of_offsets {length : Nat} (inside : va.toNat + length ≤ addressCount)
    (apart : ∀ first < length, ∀ second < length,
      (memory.entryAt? handle (va + UInt32.ofNat first)).map PageEntry.frame = none ∨
        (memory.entryAt? handle (va + UInt32.ofNat first)).map PageEntry.frame ≠
          (memory.entryAt? handle (va + UInt32.ofNat second)).map PageEntry.frame ∨
        pageNumber (va + UInt32.ofNat first) = pageNumber (va + UInt32.ofNat second)) :
    memory.Unaliased handle va length := by
  -- Every address of the range lies at some distance from its start.
  have offset {place : Address} (within : place.toNat ∈ Set.Ico va.toNat (va.toNat + length)) :
      ∃ offset < length, place = va + UInt32.ofNat offset := by
    obtain ⟨above, below⟩ := within
    refine ⟨place.toNat - va.toNat, by omega, UInt32.toNat_inj.mp ?_⟩
    rw [toNat_add_of_lt (by omega), Nat.add_sub_cancel' above]
  intro first second within also entry other here there same
  obtain ⟨early, short, rfl⟩ := offset within
  obtain ⟨late, short', rfl⟩ := offset also
  simpa [here, there, same] using apart early short late short'

section Ranges

variable {length : Nat}

/-- The addresses of a range go upwards as long as they are mapped. -/
theorem Bounded.toNat_add (bounded : memory.Bounded) {offset : Nat}
    (mapped : ∀ earlier < offset,
      (memory.entryAt? handle (va + UInt32.ofNat earlier)).isSome = true) :
    (va + UInt32.ofNat offset).toNat = va.toNat + offset := by
  -- All addresses before this one are mapped, and therefore in user memory.
  refine toNat_add_of_below fun earlier sooner => ?_
  obtain ⟨entry, found⟩ := Option.isSome_iff_exists.mp (mapped earlier sooner)
  exact bounded handle _ entry found

/-- Every byte of a range is mapped if all of its addresses are. -/
theorem Bounded.isMapped_range_iff (bounded : memory.Bounded) :
    (∀ byte ∈ Set.Ico va.toNat (va.toNat + length), memory.IsMapped handle byte) ↔
      ∀ offset < length, (memory.entryAt? handle (va + UInt32.ofNat offset)).isSome = true := by
  constructor
  · intro mapped offset inside
    obtain ⟨address, number, found⟩ := mapped (va.toNat + offset) ⟨by omega, by omega⟩
    -- The number is that of an address, so that nothing has wrapped around before it.
    have bound := address.toNat_lt
    have count : addressCount = 4294967296 := rfl
    have same : va + UInt32.ofNat offset = address :=
      UInt32.toNat_inj.mp ((toNat_add_of_lt (by omega)).trans number.symm)
    rwa [same]
  · rintro mapped byte ⟨above, inside⟩
    obtain ⟨offset, rfl⟩ := Nat.exists_eq_add_of_le above
    exact ⟨va + UInt32.ofNat offset,
      bounded.toNat_add fun earlier sooner => mapped earlier (by omega), mapped offset (by omega)⟩

/-- The first unmapped address of a range is the least one. -/
theorem Bounded.isLeast (bounded : memory.Bounded) {offset : Nat} (inside : offset < length)
    (mapped : ∀ earlier < offset,
      (memory.entryAt? handle (va + UInt32.ofNat earlier)).isSome = true)
    (missing : memory.entryAt? handle (va + UInt32.ofNat offset) = none) :
    IsLeast {byte ∈ Set.Ico va.toNat (va.toNat + length) | ¬memory.IsMapped handle byte}
      (va + UInt32.ofNat offset).toNat := by
  have place := bounded.toNat_add mapped
  refine ⟨⟨⟨by omega, by omega⟩, ?_⟩, ?_⟩
  · rintro ⟨address, number, found⟩
    rw [UInt32.toNat_inj.mp number, missing] at found
    simp at found
  · rintro byte ⟨⟨above, -⟩, unmapped⟩
    -- Whatever is less is mapped.
    by_contra sooner
    exact unmapped (bounded.isMapped_range_iff.mpr mapped byte ⟨above, by omega⟩)

/-- Only the start of a page can be unmapped right behind a mapped address. -/
theorem isAligned_of_unmapped {offset : Nat}
    (mapped : (memory.entryAt? handle (va + UInt32.ofNat offset)).isSome = true)
    (missing : memory.entryAt? handle (va + UInt32.ofNat (offset + 1)) = none) :
    isAligned (va + UInt32.ofNat (offset + 1)) = true := by
  rw [UInt32.ofNat_add, ← UInt32.add_assoc] at missing ⊢
  generalize va + UInt32.ofNat offset = before at mapped missing ⊢
  -- Otherwise both addresses would be on one page.
  by_contra inner
  have behind : pageRest before ≠ 1 := by
    intro last
    refine inner (beq_iff_eq.mpr (UInt32.toNat_inj.mp ?_))
    have length : pageLength = 4096 := rfl
    have bound := before.toNat_lt
    rw [pageRest, UInt32.toNat_mod, toNat_pageSize] at last
    rw [UInt32.toNat_mod, UInt32.toNat_add, toNat_pageSize, UInt32.toNat_zero]
    simp only [UInt32.reduceToNat, UInt32.reduceOfNat]
    omega
  have rest := pageRest_pos before
  have more : 1 < pageRest before := by omega
  rw [entryAt?_congr (pageNumber_add_of_lt more)] at missing
  simp [missing] at mapped

end Ranges

/-- Data that is written to mapped pages, each with a frame of its own, stands there. -/
theorem stored_copyOut (backed : memory.Backed) (bounded : memory.Bounded)
    (single : memory.Unaliased handle va data.length)
    (mapped : ∀ offset < data.length,
      (memory.entryAt? handle (va + UInt32.ofNat offset)).isSome = true) :
    memory.Stored handle va data (memory.copyOut handle va data).2 where
  toDiffersWithin := differsWithin_copyOut backed handle va data
  stored offset inside := by
    obtain ⟨entry, found⟩ := Option.isSome_iff_exists.mp (mapped offset inside)
    refine ⟨entry, found, poolByte_written backed (Prod.ext (copyOut_ok mapped) rfl) offset inside
      _ _ ⟨entry, found, rfl, rfl⟩ ?_⟩
    -- A later address that is mapped to the same byte would be the same address.
    rintro later within after ⟨other, there, same, place⟩
    have number (step : Nat) (short : step < data.length) :
        (va + UInt32.ofNat step).toNat = va.toNat + step :=
      bounded.toNat_add fun earlier sooner => mapped earlier (by omega)
    have page := single (va + UInt32.ofNat later) (va + UInt32.ofNat offset)
      (by rw [number later within]; exact ⟨by omega, by omega⟩)
      (by rw [number offset inside]; exact ⟨by omega, by omega⟩) other entry there found same
    have again := congrArg UInt32.toNat (eq_of_pageNumber_eq page place)
    rw [number later within, number offset inside] at again
    omega

/-- Data that stands at a range is read from there. -/
theorem Stored.copyIn_eq (stored : memory.Stored handle va data next) :
    next.copyIn handle va data.length = .ok data := by
  have entries (place : Address) : next.entryAt? handle place = memory.entryAt? handle place := by
    rw [entryAt?, table?_congr stored.spaces_eq, ← entryAt?]
  rw [copyIn_of_mapped fun offset inside => ?_]
  · -- Compare the two lists place by place.
    refine congrArg Except.ok (List.ext_getElem? fun offset => ?_)
    by_cases inside : offset < data.length
    · obtain ⟨entry, found, byte⟩ := stored.stored offset inside
      rw [getElem?_addressRange inside, List.getElem?_eq_getElem inside,
        byteAt_of_entry ((entries _).trans found), byte]
    · rw [List.getElem?_eq_none (by simpa [addressRange] using Nat.le_of_not_lt inside),
        List.getElem?_eq_none (Nat.le_of_not_lt inside)]
  · obtain ⟨entry, found, -⟩ := stored.stored offset inside
    rw [entries, found]
    rfl

/-- Writing stops at the first unmapped address, with the bytes before it written. -/
theorem copyOut_of_unmapped {offset : Nat} (inside : offset < data.length)
    (mapped : ∀ earlier < offset,
      (memory.entryAt? handle (va + UInt32.ofNat earlier)).isSome = true)
    (missing : memory.entryAt? handle (va + UInt32.ofNat offset) = none) :
    memory.copyOut handle va data =
      (.error (va + UInt32.ofNat offset), (memory.copyOut handle va (data.take offset)).2) := by
  have short : (data.take offset).length = offset := List.length_take_of_le inside.le
  have begun : memory.copyOut handle va (data.take offset) =
      (.ok (), (memory.copyOut handle va (data.take offset)).2) :=
    Prod.ext (copyOut_ok fun earlier sooner => mapped earlier (short ▸ sooner)) rfl
  conv_lhs => rw [← List.take_append_drop offset data]
  rw [copyOut_append, begun]
  dsimp only
  -- The next byte is the first one of the rest, and the writes so far have mapped nothing.
  rw [short, List.drop_eq_getElem_cons inside, copyOut, entryAt?_copyOut, missing]

/-- Reading fails at the address that is found to be unmapped. -/
theorem copyIn_of_unmapped {length : Nat} {bad : Address}
    (search : firstAddress (memory.isUnmapped handle) length va = some bad)
    (entries : ∀ place, next.entryAt? handle place = memory.entryAt? handle place) :
    next.copyIn handle va length = .error bad := by
  -- The search looks at entries alone, and those are the same.
  have same : next.isUnmapped handle = memory.isUnmapped handle := by
    funext place
    rw [isUnmapped, entries, isUnmapped]
  simp only [copyIn, same, search]

/-- What is copied out comes back wherever frames exist and only user memory is mapped. -/
theorem roundTrips (backed : memory.Backed) (bounded : memory.Bounded)
    (single : memory.Unaliased handle va data.length) : memory.RoundTrips handle va data := by
  have pages := And.intro (memory.copyOut_eq_copyOutByPages handle va data)
    fun next : Memory => next.copyIn_eq_copyInByPages handle va data.length
  -- Look for the first unmapped address.
  cases search : firstAddress (memory.isUnmapped handle) data.length va with
  | none =>
    have mapped : ∀ offset < data.length,
        (memory.entryAt? handle (va + UInt32.ofNat offset)).isSome = true := fun offset inside => by
      simpa [isUnmapped] using firstAddress_eq_none search offset inside
    -- Without one, all bytes are written, and read back.
    have written := copyOut_ok mapped
    have stored := stored_copyOut backed bounded single mapped
    refine ⟨iff_of_true written (bounded.isMapped_range_iff.mpr mapped), ?_, ?_, pages⟩
    · intro next copied
      rw [copied] at stored
      exact ⟨stored, stored.copyIn_eq⟩
    · rintro ⟨byte, inside, unmapped⟩
      exact absurd (bounded.isMapped_range_iff.mpr mapped byte inside) unmapped
  | some bad =>
    obtain ⟨missing, offset, inside, rfl, before⟩ := firstAddress_eq_some search
    have missing : memory.entryAt? handle (va + UInt32.ofNat offset) = none := by
      simpa [isUnmapped] using missing
    have mapped : ∀ earlier < offset,
        (memory.entryAt? handle (va + UInt32.ofNat earlier)).isSome = true := by
      intro earlier sooner
      simpa [isUnmapped] using before earlier sooner
    -- With one, the bytes before it are written, and then it is named.
    have least := bounded.isLeast inside mapped missing
    have copied := copyOut_of_unmapped inside mapped missing
    refine ⟨iff_of_false (by simp [copied]) fun all => least.1.2 (all _ least.1.1), ?_, ?_, pages⟩
    · intro next ok
      simp [copied] at ok
    · intro _
      have length : (data.take offset).length = offset := List.length_take_of_le inside.le
      -- Copying in finds the same entries, before and after.
      refine ⟨_, _, least, ?_, copied, copyIn_of_unmapped search fun _ => rfl,
        copyIn_of_unmapped search fun place => by simp, ?_⟩
      · cases offset with
        | zero => exact .inl (by simp)
        | succ offset => exact .inr (isAligned_of_unmapped (mapped offset (by omega)) missing)
      · rw [bounded.toNat_add mapped, Nat.add_sub_cancel_left]
        refine stored_copyOut backed bounded (fun first second within also => ?_)
          fun earlier sooner => mapped earlier (length ▸ sooner)
        rw [length] at within also
        exact single first second ⟨within.1, within.2.trans (by omega)⟩
          ⟨also.1, also.2.trans (by omega)⟩

section Sizes

variable (memory : Memory) (handle : SpaceHandle) (va : Address)

/-- To make a space leaves as many frames. -/
theorem size_createSpace :
    memory.createSpace.2.pool.frames.size = memory.pool.frames.size := by
  -- The table is put in its place when its directory has been made.
  have made := PageTable.size_create memory.pool
  unfold createSpace
  split <;> rename_i created <;> rw [created] at made
  · exact made
  · rw [pool_putTable]
    exact made

/-- To give up a space leaves as many frames. -/
theorem size_destroySpace :
    (memory.destroySpace handle).2.pool.frames.size = memory.pool.frames.size := by
  -- Its frames lose references, and its place is emptied.
  simp only [destroySpace]
  split
  · rfl
  · rw [pool_putTable]
    exact memory.pool.size_foldl_decref _

/-- To map a frame in a space leaves as many frames. -/
theorem size_map (frame : FrameNumber) (flags : PageFlags) :
    (memory.map handle va frame flags).2.pool.frames.size = memory.pool.frames.size := by
  -- The address and the handle may be refused before the table is touched.
  unfold map
  split
  · rfl
  · split
    · rfl
    · split
      · rfl
      · rename_i table _
        have inserted := table.size_insert memory.pool va frame flags
        split <;> rename_i made <;> rw [made] at inserted
        · exact inserted
        · rw [pool_putTable]
          exact inserted

/-- To unmap an address leaves as many frames. -/
theorem size_unmap : (memory.unmap handle va).2.pool.frames.size = memory.pool.frames.size := by
  -- What was mapped there loses a reference, if anything was.
  unfold unmap
  split
  · rfl
  · rw [pool_putTable]
    simp only [PageTable.remove]
    split
    · exact memory.pool.size_decref _
    · rfl

/-- Operations neither add frames nor lose any. -/
theorem size_step (event : MemoryEvent) :
    (memory.step event).pool.frames.size = memory.pool.frames.size := by
  -- One case for each kind of operation; the last two do not touch the frames.
  cases event with
  | create => exact memory.size_createSpace
  | destroy handle => exact memory.size_destroySpace handle
  | allocate => exact memory.pool.size_alloc
  | free frame => exact memory.pool.size_release frame
  | map handle va frame flags => exact memory.size_map handle va frame flags
  | unmap handle va => exact memory.size_unmap handle va
  | activate | forceFailure => rfl

/-- Writing bytes neither adds frames nor loses any. -/
theorem size_copyOut (bytes : List UInt8) :
    (memory.copyOut handle va bytes).2.pool.frames.size = memory.pool.frames.size := by
  -- Induct on the bytes, each of which changes a frame that is there.
  fun_induction copyOut memory handle va bytes with
  | case1 => rfl
  | case2 => rfl
  | case3 memory va byte rest entry found pool ih => exact ih.trans (FramePool.size_modify _ _ _)

end Sizes

/-- Frames that are mapped exist, if none is mapped that does not. -/
theorem Backed.step (backed : memory.Backed) (event : MemoryEvent)
    (exists_ : ∀ handle va frame flags, event = .map handle va frame flags →
      frame < memory.pool.frames.size) : (memory.step event).Backed := by
  intro handle va entry found
  rw [size_step]
  -- An entry is new, with a frame that exists, or it was there before.
  rcases (entryAt?_step memory event handle va entry).mp found with maps | ⟨old, -⟩
  · cases event with
    | map target place frame flags =>
      obtain ⟨-, -, -, rfl⟩ := maps
      exact exists_ target place frame flags rfl
    | _ => exact maps.elim
  · exact backed handle va entry old

/-- Operations map user memory only. -/
theorem Bounded.step (bounded : memory.Bounded) (event : MemoryEvent) :
    (memory.step event).Bounded := by
  intro handle va entry found
  rcases (entryAt?_step memory event handle va entry).mp found with maps | ⟨old, -⟩
  · cases event with
    | map target place frame flags =>
      obtain ⟨mapped, -, same, -⟩ := maps
      obtain ⟨-, -, -, -, below, -⟩ := map_ok_spec (Prod.ext mapped rfl)
      -- User memory ends with a page.
      have numbers := pageNumber_eq_iff.mp same
      rw [UInt32.lt_iff_toNat_lt, toNat_userTop] at below ⊢
      omega
    | _ => exact maps.elim
  · exact bounded handle va entry old

/-- A run of operations that only maps frames that exist. -/
theorem reachable_after {count : Nat} {events : List MemoryEvent}
    (exists_ : ∀ handle va frame flags, .map handle va frame flags ∈ events → frame < count) :
    (after count events).Reachable := by
  have size (events : List MemoryEvent) : (after count events).pool.frames.size = count := by
    induction events using List.reverseRecOn with
    | nil => simp [after, ofFrames, FramePool.ofCount]
    | append_singleton events event ih => rw [after_append, size_step, ih]
  -- Induct on the run from its end, whose last operation finds as many frames as the first one.
  induction events using List.reverseRecOn with
  | nil => exact .start count
  | append_singleton events event ih =>
    rw [after_append]
    refine .step (ih fun handle va frame flags earlier =>
      exists_ handle va frame flags (List.mem_append_left _ earlier)) event ?_
    rintro handle va frame flags rfl
    rw [size]
    exact exists_ handle va frame flags (by simp)

/-- Whatever happens to memory, frames that are mapped exist, and only user memory is mapped. -/
theorem Reachable.backed_and_bounded (reachable : memory.Reachable) :
    memory.Backed ∧ memory.Bounded := by
  -- Induct on how the memory came about; bytes that are written move no mapping.
  induction reachable with
  | start count =>
    constructor <;>
    · intro handle va entry found
      simp [entryAt?, table?, ofFrames] at found
  | run config events =>
    have sound := (Machine.coupled_after config events).settled.memory
    exact ⟨sound.backed, fun handle va entry found => sound.lt_userTop found⟩
  | step reachable event exists_ ih => exact ⟨ih.1.step event exists_, ih.2.step event⟩
  | @copyOut memory reachable handle va data ih =>
    obtain ⟨backed, bounded⟩ := ih
    constructor
    · intro other place entry found
      rw [entryAt?_copyOut] at found
      rw [size_copyOut]
      exact backed other place entry found
    · intro other place entry found
      rw [entryAt?_copyOut] at found
      exact bounded other place entry found
  | @overlay memory reachable frame offset data ih =>
    obtain ⟨backed, bounded⟩ := ih
    refine ⟨fun handle va entry found => ?_, bounded⟩
    show entry.frame < (memory.pool.modify frame _).frames.size
    rw [FramePool.size_modify]
    exact backed handle va entry found

/--
What is copied out to a range of a space is what is copied in from there, if no two pages of the
range share a frame. Both fail at the least unmapped address if there is one, and then the bytes
before it have been written.
-/
theorem roundTrips_of_reachable (reachable : memory.Reachable) (handle : SpaceHandle)
    (va : Address) (data : List UInt8) (single : memory.Unaliased handle va data.length) :
    memory.RoundTrips handle va data := by
  -- Reachable memory has a frame behind each entry, and no entry above user memory.
  obtain ⟨backed, bounded⟩ := reachable.backed_and_bounded
  exact roundTrips backed bounded single

/-- Memory with two pages next to each other in one space, each with a frame of its own. -/
def neighbours : Memory :=
  after 8 [.create, .allocate, .allocate, .map ⟨0⟩ 0x800000 1 .user, .map ⟨0⟩ 0x801000 2 .user]

/-- Four bytes go over the page boundary and back, but only two of them fit before the end. -/
theorem roundTrips_acrossPages :
    (neighbours.RoundTrips ⟨0⟩ 0x800ffe [1, 2, 3, 4] ∧
      (neighbours.copyOut ⟨0⟩ 0x800ffe [1, 2, 3, 4]).1 = .ok ()) ∧
    (neighbours.RoundTrips ⟨0⟩ 0x801ffe [1, 2, 3, 4] ∧
      (neighbours.copyOut ⟨0⟩ 0x801ffe [1, 2, 3, 4]).1 = .error 0x802000) := by
  -- The two pages are reached by mapping user addresses only.
  have reachable : neighbours.Reachable := reachable_after fun handle va frame flags maps => by
    simp only [List.mem_cons, List.not_mem_nil, reduceCtorEq, MemoryEvent.map.injEq, false_or,
      or_false] at maps
    rcases maps with ⟨-, -, rfl, -⟩ | ⟨-, -, rfl, -⟩ <;> decide
  exact
    ⟨⟨roundTrips_of_reachable reachable ⟨0⟩ 0x800ffe [1, 2, 3, 4]
        (unaliased_of_offsets (by decide) (by decide +kernel)), by decide +kernel⟩,
      roundTrips_of_reachable reachable ⟨0⟩ 0x801ffe [1, 2, 3, 4]
        (unaliased_of_offsets (by decide) (by decide +kernel)), by decide +kernel⟩

end Memory

end Exokernel
