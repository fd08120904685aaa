import Exokernel.Proofs.Memory.Access

/-! Which ranges of addresses pass the check of user memory, address by address. -/

namespace Exokernel.Memory

variable {memory : Memory} {handle : SpaceHandle} {va length : Word} {flags : PageFlags}

/-- An address lies in user memory, on a page that is mapped for user mode with the given flags. -/
def Permits (memory : Memory) (handle : SpaceHandle) (flags : PageFlags) (va : Address) : Prop :=
  va < userTop ∧ ∃ entry, memory.entryAt? handle va = some entry ∧
    entry.flags.contains (flags ||| .present ||| .user) = true

/-- The first address of a range that is not permitted. -/
structure FirstRefused (memory : Memory) (handle : SpaceHandle) (flags : PageFlags)
    (va : Address) (length : Nat) (bad : Address) : Prop where
  /-- It is not permitted. -/
  refused : ¬memory.Permits handle flags bad
  /-- It is in the range, and all addresses of the range before it are permitted. -/
  first : ∃ offset < length, bad = va + UInt32.ofNat offset ∧
    ∀ earlier < offset, memory.Permits handle flags (va + UInt32.ofNat earlier)

/-- What is looked at for a page is whether its addresses are permitted. -/
theorem permits_iff : memory.Permits handle flags va ↔
    va < userTop ∧ memory.allows handle va (flags ||| .present ||| .user) = true := by
  -- The bound is part of neither the entry nor its flags.
  unfold Permits allows
  cases memory.entryAt? handle va <;> simp

/-- What is permitted at one address is permitted on the whole page. -/
theorem permits_congr {other : Address} (same : pageNumber va = pageNumber other) :
    memory.Permits handle flags va ↔ memory.Permits handle flags other := by
  -- User memory ends at a page boundary, and entries are kept by page.
  have pages := pageNumber_eq_iff.mp same
  rw [permits_iff, permits_iff, allows_congr memory handle same, UInt32.lt_iff_toNat_lt,
    UInt32.lt_iff_toNat_lt, toNat_userTop]
  constructor <;> exact fun ⟨below, allowed⟩ => ⟨by omega, allowed⟩

/-- Something is mapped where something is permitted. -/
theorem Permits.isSome (permitted : memory.Permits handle flags va) :
    (memory.entryAt? handle va).isSome = true := by
  -- The permission is that of an entry.
  obtain ⟨-, entry, found, -⟩ := permitted
  simp [found]

/-- What is permitted for writing, user code may write itself. -/
theorem Permits.writable {entry : PageEntry}
    (permitted : memory.Permits handle (.present ||| .writable) va)
    (found : memory.entryAt? handle va = some entry) :
    entry.flags.contains (.user ||| .writable) = true := by
  obtain ⟨-, same, listed, allowed⟩ := permitted
  rw [found, Option.some.injEq] at listed
  subst listed
  -- Both flags are among those that were asked for.
  obtain ⟨wanted, user⟩ := PageFlags.contains_or_iff.mp allowed
  obtain ⟨asked, -⟩ := PageFlags.contains_or_iff.mp wanted
  exact PageFlags.contains_or_iff.mpr ⟨user, (PageFlags.contains_or_iff.mp asked).2⟩

/-- A run of pages is refused at its first page that is not permitted. -/
theorem checkPages_error {start bad page : Address} {count : Nat}
    (failed : memory.checkPages handle start (flags ||| .present ||| .user) count page =
      .error bad) :
    ∃ step < count, bad = max (page + UInt32.ofNat (step * 4096)) start ∧
      ¬memory.Permits handle flags (page + UInt32.ofNat (step * 4096)) ∧
      ∀ earlier < step, memory.Permits handle flags (page + UInt32.ofNat (earlier * 4096)) := by
  -- Induct on the number of pages: the first one is refused, or the run behind it is.
  induction count generalizing page with
  | zero => simp [checkPages] at failed
  | succ count ih =>
    simp only [checkPages] at failed
    split at failed
    · rename_i refused
      simp only [Except.error.injEq] at failed
      refine ⟨0, Nat.zero_lt_succ count, by simpa using failed.symm, ?_, by simp⟩
      rw [permits_iff]
      rcases refused with high | denied
      · simpa using fun below => absurd below (UInt32.not_lt.mpr high)
      · simpa using fun _ => by simpa using denied
    · rename_i good
      obtain ⟨below, allowed⟩ := not_or.mp good
      have here : memory.Permits handle flags page :=
        permits_iff.mpr ⟨UInt32.not_le.mp below, by simpa using allowed⟩
      obtain ⟨step, inside, placed, refused, before⟩ := ih failed
      refine ⟨step + 1, by omega, by rwa [page_succ], by rwa [page_succ], fun earlier less => ?_⟩
      cases earlier with
      | zero => simpa using here
      | succ earlier =>
        rw [page_succ]
        exact before earlier (by omega)

/-- The pages that are checked for a range, as far as they lie below the last page of all. -/
theorem pagesSpanned_range (inside : va.toNat + length.toNat < addressCount) :
    pagesSpanned va (va + length) =
      min ((va.toNat + length.toNat + 4095) / 4096) 1048575 - va.toNat / 4096 := by
  -- The range ends before all addresses do, so that its end is a sum of numbers.
  have count : addressCount = 4294967296 := rfl
  rw [pagesSpanned_eq_min, UInt32.toNat_add, Nat.mod_eq_of_lt (by omega)]

section Checked

-- Ranges that do not wrap around and start below the last page of all addresses.
variable (inside : va.toNat + length.toNat < addressCount) (low : va < 0xfffff000)

include inside low

/-- A range that passes the check is permitted at every address. -/
theorem permits_of_userCheck (passed : memory.userCheck handle va length flags = .ok ())
    {offset : Nat} (within : offset < length.toNat) :
    memory.Permits handle flags (va + UInt32.ofNat offset) := by
  have count : addressCount = 4294967296 := rfl
  have start : va.toNat < 4294963200 := UInt32.lt_iff_toNat_lt.mp low
  have pages := passed
  rw [userCheck, if_pos inside] at pages
  have checked := checkPages_ok pages
  rw [pagesSpanned_range inside] at checked
  -- A page above user memory would have been refused, so the range ends below the last page.
  have ends : va.toNat + length.toNat ≤ 4294963200 := by
    by_contra beyond
    have last := (checked (1048574 - va.toNat / 4096) (by omega)).1
    rw [UInt32.lt_iff_toNat_lt, toNat_page_add (by omega), toNat_userTop] at last
    omega
  exact permits_iff.mpr (userCheck_ok passed ends within)

/-- A range that does not pass the check is refused at its first address that is not permitted. -/
theorem firstRefused_of_userCheck (positive : 1 ≤ length.toNat) {bad : Address}
    (failed : memory.userCheck handle va length flags = .error bad) :
    memory.FirstRefused handle flags va length.toNat bad := by
  have count : addressCount = 4294967296 := rfl
  have start : va.toNat < 4294963200 := UInt32.lt_iff_toNat_lt.mp low
  rw [userCheck, if_pos inside] at failed
  obtain ⟨step, counted, placed, refused, before⟩ := checkPages_error failed
  rw [pagesSpanned_range inside] at counted
  have page : (pageBase va + UInt32.ofNat (step * 4096)).toNat = (va.toNat / 4096 + step) * 4096 :=
    toNat_page_add (by omega)
  -- The bad address is on the first page that is not permitted, and in the range.
  obtain ⟨offset, offset_eq⟩ : ∃ offset, offset =
    (va.toNat / 4096 + step) * 4096 - va.toNat := ⟨_, rfl⟩
  have address : (va + UInt32.ofNat offset).toNat = va.toNat + offset :=
    toNat_add_of_lt (by omega)
  have bad_eq : bad = va + UInt32.ofNat offset := by
    refine UInt32.toNat_inj.mp ?_
    rw [placed, address, toNat_max]
    omega
  have sameOf {place : Address} (index : Nat) (fits : va.toNat / 4096 + index < 1048576)
      (here : place.toNat / 4096 = va.toNat / 4096 + index) :
      pageNumber place = pageNumber (pageBase va + UInt32.ofNat (index * 4096)) := by
    rw [pageNumber_eq_iff, toNat_page_add fits, here]
    omega
  refine ⟨?_, offset, by omega, bad_eq, fun earlier less => ?_⟩
  · rw [bad_eq, permits_congr (sameOf step (by omega) (by rw [address]; omega))]
    exact refused
  · -- An earlier address of the range is on one of the pages before.
    have place : (va + UInt32.ofNat earlier).toNat = va.toNat + earlier :=
      toNat_add_of_lt (by omega)
    rw [permits_congr (sameOf ((va.toNat + earlier) / 4096 - va.toNat / 4096) (by omega)
      (by rw [place]; omega))]
    exact before _ (by omega)

/-- A range passes the check exactly if every address is permitted. -/
theorem userCheck_eq_ok_iff (positive : 1 ≤ length.toNat) :
    memory.userCheck handle va length flags = .ok () ↔
      ∀ offset < length.toNat, memory.Permits handle flags (va + UInt32.ofNat offset) := by
  refine ⟨fun passed offset within => permits_of_userCheck inside low passed within, fun all => ?_⟩
  -- A refusal would name an address of the range that is not permitted.
  cases checked : memory.userCheck handle va length flags with
  | ok => rfl
  | error bad =>
    obtain ⟨refused, offset, within, rfl, -⟩ :=
      firstRefused_of_userCheck inside low positive checked
    exact absurd (all offset within) refused

end Checked

/-- A range that wraps around is refused from its start. -/
theorem userCheck_of_wraps (wraps : addressCount ≤ va.toNat + length.toNat) :
    memory.userCheck handle va length flags = .error va := by
  -- The sum is compared before any page is looked at.
  rw [userCheck, if_neg (Nat.not_lt.mpr wraps)]

/-- On the last page of all addresses nothing is checked. -/
theorem userCheck_of_last (inside : va.toNat + length.toNat < addressCount)
    (high : 0xfffff000 ≤ va) : memory.userCheck handle va length flags = .ok () := by
  -- Rounding up stops at the last page, which is where the range begins.
  have count : addressCount = 4294967296 := rfl
  have start : 4294963200 ≤ va.toNat := UInt32.le_iff_toNat_le.mp high
  have pages : pagesSpanned va (va + length) = 0 := by
    rw [pagesSpanned_eq_min]
    omega
  rw [userCheck, if_pos inside, pages, checkPages]

/-- For an empty range that starts within a page, that page is checked all the same. -/
theorem userCheck_zero_of_unaligned (unaligned : isAligned va = false) (low : va < 0xfffff000) :
    memory.userCheck handle va 0 flags = memory.userCheck handle va 1 flags := by
  have count : addressCount = 4294967296 := rfl
  have start : va.toNat < 4294963200 := UInt32.lt_iff_toNat_lt.mp low
  have within : va.toNat % 4096 ≠ 0 := by
    intro zero
    refine absurd (UInt32.toNat_inj.mp ?_) (beq_eq_false_iff_ne.mp unaligned)
    rw [UInt32.toNat_mod, toNat_pageSize, zero, UInt32.toNat_zero]
  have none_ : (0 : Word).toNat = 0 := rfl
  have one : (1 : Word).toNat = 1 := rfl
  -- Both ranges span the one page that the address is on.
  have pages : pagesSpanned va (va + 0) = pagesSpanned va (va + 1) := by
    rw [pagesSpanned_range (by omega), pagesSpanned_range (by omega), none_, one]
    omega
  rw [userCheck, userCheck, if_pos (by omega), if_pos (by omega), pages]

/-- For an empty range that starts a page nothing is checked. -/
theorem userCheck_zero_of_aligned (aligned : isAligned va = true) :
    memory.userCheck handle va 0 flags = .ok () := by
  -- Rounding the address down and rounding it up give the same page, with none between.
  have count : addressCount = 4294967296 := rfl
  have remainder := toNat_mod_of_isAligned aligned
  have bound := va.toNat_lt
  have none_ : (0 : Word).toNat = 0 := rfl
  have pages : pagesSpanned va (va + 0) = 0 := by
    rw [UInt32.add_zero, pagesSpanned_eq_min]
    omega
  rw [userCheck, if_pos (by omega), pages, checkPages]

/-- A range that is permitted throughout lies in user memory. -/
theorem toNat_le_of_permits (positive : 1 ≤ length.toNat)
    (all : ∀ offset < length.toNat, memory.Permits handle flags (va + UInt32.ofNat offset)) :
    va.toNat + length.toNat ≤ 4005560320 := by
  have first := (all 0 positive).1
  have start : va.toNat < 4005560320 := by simpa [UInt32.lt_iff_toNat_lt] using first
  -- Otherwise the end of user memory would be among the addresses of the range.
  by_contra beyond
  have count : addressCount = 4294967296 := rfl
  have last := (all (4005560320 - va.toNat) (by omega)).1
  rw [UInt32.lt_iff_toNat_lt, toNat_add_of_lt (by omega), toNat_userTop] at last
  omega

/-- A range that is permitted throughout passes; an empty one does as far as it is checked. -/
theorem userCheck_of_permits
    (all : ∀ offset < length.toNat, memory.Permits handle flags (va + UInt32.ofNat offset))
    (touched : 1 ≤ length.toNat ∨ isAligned va = true ∨ 0xfffff000 ≤ va ∨
      memory.Permits handle flags va) :
    memory.userCheck handle va length flags = .ok () := by
  have count : addressCount = 4294967296 := rfl
  have lowOf (fits : va.toNat < 4005560320) : va < 0xfffff000 :=
    UInt32.lt_iff_toNat_lt.mpr (Nat.lt_trans fits (by decide))
  by_cases positive : 1 ≤ length.toNat
  · have fits := toNat_le_of_permits positive all
    exact (userCheck_eq_ok_iff (by omega) (lowOf (by omega)) positive).mpr all
  · -- Of an empty range at most the page of its first address is checked.
    obtain rfl : length = 0 := UInt32.toNat_inj.mp (by rw [UInt32.toNat_zero]; omega)
    have bound := va.toNat_lt
    have none_ : (0 : Word).toNat = 0 := rfl
    have one : (1 : Word).toNat = 1 := rfl
    rcases touched with some_ | aligned | high | permitted
    · exact absurd some_ positive
    · exact userCheck_zero_of_aligned aligned
    · exact userCheck_of_last (by omega) high
    · cases aligned : isAligned va with
      | true => exact userCheck_zero_of_aligned aligned
      | false =>
        have fits := permitted.1
        rw [UInt32.lt_iff_toNat_lt, toNat_userTop] at fits
        rw [userCheck_zero_of_unaligned aligned (lowOf fits)]
        refine (userCheck_eq_ok_iff (by omega) (lowOf fits) (by omega)).mpr fun offset within => ?_
        obtain rfl : offset = 0 := by omega
        simpa using permitted

/-- A range with an address that is not permitted is refused, except on the last page of all. -/
theorem userCheck_of_refused (checked : va < 0xfffff000 ∨ addressCount ≤ va.toNat + length.toNat)
    {offset : Nat} (within : offset < length.toNat)
    (refused : ¬memory.Permits handle flags (va + UInt32.ofNat offset)) :
    ∃ bad, memory.userCheck handle va length flags = .error bad := by
  -- A range that wraps around is refused as such, and any other one for its address.
  by_cases inside : va.toNat + length.toNat < addressCount
  · have low : va < 0xfffff000 := checked.resolve_right (Nat.not_le.mpr inside)
    cases result : memory.userCheck handle va length flags with
    | ok => exact absurd (permits_of_userCheck inside low result within) refused
    | error bad => exact ⟨bad, rfl⟩
  · exact ⟨va, userCheck_of_wraps (Nat.not_lt.mp inside)⟩

/-- What is mapped is part of user memory. -/
theorem Sound.lt_userTop {size : Nat} {held : Multiset FrameNumber} {entry : PageEntry}
    (sound : memory.Sound size held) (found : memory.entryAt? handle va = some entry) :
    va < userTop := by
  -- A page table holds pages of user memory only.
  obtain ⟨table, named, listed⟩ := Option.bind_eq_some_iff.mp found
  have page := (sound.tables handle table named).below _ entry listed
  simp only [UInt32.lt_iff_toNat_lt, toNat_userTop, toNat_pageNumber, userPageCount] at page ⊢
  omega

/-- Nothing is mapped above user memory. -/
theorem Sound.entryAt?_of_above {size : Nat} {held : Multiset FrameNumber}
    (sound : memory.Sound size held) (above : userTop ≤ va) :
    memory.entryAt? handle va = none := by
  -- An entry would be below the end of user memory.
  by_contra mapped
  obtain ⟨entry, found⟩ := Option.ne_none_iff_exists'.mp mapped
  exact UInt32.not_lt.mpr above (sound.lt_userTop found)

end Exokernel.Memory
