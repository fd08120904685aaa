import Exokernel.Layout
import Mathlib

/-! Addresses and pages as natural numbers. -/

namespace Exokernel

/-- Number of pages in user memory. -/
abbrev userPageCount : Nat := 977920

/-- The length of a page as a number. -/
@[simp] theorem toNat_pageSize : pageSize.toNat = 4096 := rfl

/-- The span of a page table as a number. -/
@[simp] theorem toNat_tableSpan : tableSpan.toNat = 4194304 := rfl

/-- The end of user memory as a number. -/
@[simp] theorem toNat_userTop : userTop.toNat = 4005560320 := rfl

/-- The number of a page is the number of whole pages below it. -/
@[simp] theorem toNat_pageNumber (va : Address) : (pageNumber va).toNat = va.toNat / 4096 := by
  -- Words are divided like numbers.
  simp [pageNumber]

/-- The number of a page is what an address has above the bits that select a byte within it. -/
theorem pageNumber_eq_shiftRight (va : Address) : pageNumber va = va >>> UInt32.ofNat pageBits := by
  apply UInt32.toNat_inj.mp
  rw [toNat_pageNumber, UInt32.toNat_shiftRight]
  -- To shift by the bits of a page is to divide by its length.
  exact (Nat.shiftRight_eq_div_pow va.toNat pageBits).symm

/-- The index of a page table is what an address has above the bits within the table's span. -/
theorem tableIndex_eq_shiftRight (va : Address) :
    tableIndex va = va >>> UInt32.ofNat tableBits := by
  -- As with pages, to shift is to divide.
  apply UInt32.toNat_inj.mp
  rw [tableIndex, UInt32.toNat_div, UInt32.toNat_shiftRight]
  exact (Nat.shiftRight_eq_div_pow va.toNat tableBits).symm

/-- The kernel's views are what the three page tables behind user memory cover. -/
theorem lt_viewsTop_iff {va : Address} (above : userTop ≤ va) :
    va < viewsTop ↔ tableIndex va < tableIndex userTop + 3 := by
  -- Both ends are the starts of tables, so that no table has both user memory and views.
  have start : (tableIndex userTop + 3).toNat = 958 := by decide
  have last : viewsTop.toNat = 4018143232 := rfl
  have bound := UInt32.le_iff_toNat_le.mp above
  rw [toNat_userTop] at bound
  rw [UInt32.lt_iff_toNat_lt, UInt32.lt_iff_toNat_lt, start, last, tableIndex, UInt32.toNat_div,
    toNat_tableSpan]
  omega

/-- The page table that covers an address is fixed by the number of the address's page. -/
theorem tableIndex_eq (va : Address) : tableIndex va = pageNumber va / 1024 := by
  -- To divide by the span of a table is to divide by a page and then by a table's entries.
  apply UInt32.toNat_inj.mp
  simp [tableIndex, Nat.div_div_eq_div_mul]

/-- User addresses lie on user pages. -/
theorem pageNumber_lt {va : Address} (below : va < userTop) :
    (pageNumber va).toNat < userPageCount := by
  -- User memory ends between two pages.
  have bound := UInt32.lt_iff_toNat_lt.mp below
  simp only [toNat_userTop, toNat_pageNumber, userPageCount] at bound ⊢
  omega

/-- The base of a page as a number. -/
theorem toNat_pageBase (va : Address) : (pageBase va).toNat = va.toNat - va.toNat % 4096 := by
  -- The remainder is no greater than the address, so that nothing wraps around.
  rw [pageBase, UInt32.toNat_sub_of_le _ _ (UInt32.le_iff_toNat_le.mpr (by simp [Nat.mod_le]))]
  simp

/--
A range counts the pages from its first address to the one that holds its last byte, except for
the last page of all.
-/
theorem pagesSpanned_eq_min (first last : Address) :
    pagesSpanned first last = min ((last.toNat + 4095) / 4096) 1048575 - first.toNat / 4096 := by
  have length : pageLength = 4096 := rfl
  have highest : (0xfffff000 : Address).toNat = 4294963200 := rfl
  rw [pagesSpanned, pageCeiling, toNat_pageBase, length]
  split
  · -- Below the last page of all addresses, rounding up does not wrap around.
    rename_i low
    have round : last.toNat ≤ 4294963200 := UInt32.le_iff_toNat_le.mp low
    have offset : (4095 : Word).toNat = 4095 := rfl
    have up : (last + 4095).toNat = last.toNat + 4095 := by
      rw [UInt32.toNat_add, offset, Nat.mod_eq_of_lt (by omega)]
    rw [toNat_pageBase, up]
    omega
  · rename_i high
    have beyond : ¬last.toNat ≤ 4294963200 := fun low => high (UInt32.le_iff_toNat_le.mpr low)
    rw [highest]
    omega

/-- A range counts the pages from its first address to the one that holds its last byte. -/
theorem pagesSpanned_eq (first : Address) {last : Address} (low : last.toNat ≤ 4294963200) :
    pagesSpanned first last = (last.toNat + 4095) / 4096 - first.toNat / 4096 := by
  -- Below the last page, rounding up stays in range, and the minimum is not taken.
  rw [pagesSpanned_eq_min, min_eq_left (by omega)]

/-- The greater one of two addresses. -/
theorem toNat_max (va other : Address) : (max va other).toNat = max va.toNat other.toNat := by
  -- Which one is greater is decided by comparing words, and words compare like numbers.
  show (if va ≤ other then other else va).toNat = _
  split
  · rename_i below
    exact (max_eq_right (UInt32.le_iff_toNat_le.mp below)).symm
  · rename_i above
    exact (max_eq_left (UInt32.le_iff_toNat_le.mp (UInt32.le_of_lt (UInt32.not_le.mp above)))).symm

/-- The pages of a range, counted from the page of its first address. -/
theorem toNat_page_add {va : Address} {step : Nat} (fits : va.toNat / 4096 + step < 1048576) :
    (pageBase va + UInt32.ofNat (step * 4096)).toNat = (va.toNat / 4096 + step) * 4096 := by
  -- Both the distance and the sum stay below the number of addresses.
  rw [UInt32.toNat_add, UInt32.toNat_ofNat', toNat_pageBase,
    Nat.mod_eq_of_lt (a := step * 4096) (by omega), Nat.mod_eq_of_lt (by omega)]
  omega

/-- The pages after the first one are those of the run behind it. -/
theorem page_succ (page : Address) (step : Nat) :
    page + UInt32.ofNat ((step + 1) * 4096) = page + pageSize + UInt32.ofNat (step * 4096) := by
  -- One page of the distance is put first.
  rw [Nat.succ_mul, Nat.add_comm, UInt32.ofNat_add, UInt32.add_assoc]
  rfl

/-- Addresses of a range that does not wrap around. -/
theorem toNat_add_of_lt {va : Address} {offset : Nat}
    (inside : va.toNat + offset < addressCount) :
    (va + UInt32.ofNat offset).toNat = va.toNat + offset := by
  -- Neither the offset nor the sum reaches the number of addresses.
  have count : addressCount = 4294967296 := rfl
  rw [UInt32.toNat_add, UInt32.toNat_ofNat', Nat.mod_eq_of_lt (a := offset) (by omega),
    Nat.mod_eq_of_lt (by omega)]

/-- The addresses of a range are found by their distances from its start. -/
theorem mem_addressRange {start va : Address} {length : Nat} :
    va ∈ addressRange start length ↔ ∃ offset < length, start + UInt32.ofNat offset = va := by
  -- The list is made of these distances.
  simp [addressRange]

/-- The addresses after the first one of a range are those of the range behind it. -/
theorem offset_succ (start : Address) (offset : Nat) :
    start + UInt32.ofNat (offset + 1) = start + 1 + UInt32.ofNat offset := by
  -- One byte of the distance is put first.
  rw [UInt32.ofNat_add, UInt32.add_assoc, UInt32.add_comm (UInt32.ofNat offset)]
  rfl

/-- A search for an address that finds none has tried all of them. -/
theorem firstAddress_eq_none {test : Address → Bool} {count : Nat} {start : Address}
    (exhausted : firstAddress test count start = none) :
    ∀ offset < count, test (start + UInt32.ofNat offset) = false := by
  -- Induct on the number of addresses: the first one fails the test, and so do those behind it.
  induction count generalizing start with
  | zero => simp
  | succ count ih =>
    simp only [firstAddress] at exhausted
    split at exhausted
    · simp at exhausted
    · rename_i failed
      intro offset inside
      cases offset with
      | zero => simpa using failed
      | succ offset =>
        rw [offset_succ]
        exact ih exhausted offset (by omega)

/-- A search in which no address passes the test finds none. -/
theorem firstAddress_of_all {test : Address → Bool} {count : Nat} {start : Address}
    (failed : ∀ offset < count, test (start + UInt32.ofNat offset) = false) :
    firstAddress test count start = none := by
  -- Induct on the number of addresses, as the search goes on behind the first one.
  induction count generalizing start with
  | zero => rfl
  | succ count ih =>
    have here : test start = false := by simpa using failed 0 (Nat.zero_lt_succ count)
    simp only [firstAddress, here, Bool.false_eq_true, if_false]
    refine ih fun offset inside => ?_
    rw [← offset_succ]
    exact failed (offset + 1) (by omega)

/-- An address that a search finds passes the test, and is the first of the range to do so. -/
theorem firstAddress_eq_some {test : Address → Bool} {count : Nat} {start found : Address}
    (search : firstAddress test count start = some found) :
    test found = true ∧ ∃ offset < count, found = start + UInt32.ofNat offset ∧
      ∀ earlier < offset, test (start + UInt32.ofNat earlier) = false := by
  -- The first address is found, or the rest of the range is searched.
  induction count generalizing start with
  | zero => simp [firstAddress] at search
  | succ count ih =>
    simp only [firstAddress] at search
    split at search
    · rename_i passed
      rw [Option.some.injEq] at search
      subst search
      exact ⟨passed, 0, Nat.zero_lt_succ count, by simp, by simp⟩
    · rename_i failed
      obtain ⟨passed, offset, inside, rfl, before⟩ := ih search
      refine ⟨passed, offset + 1, by omega, (offset_succ start offset).symm,
        fun earlier sooner => ?_⟩
      cases earlier with
      | zero => simpa using failed
      | succ earlier =>
        rw [offset_succ]
        exact before earlier (by omega)

/-- Aligned addresses are multiples of the page length. -/
theorem toNat_mod_of_isAligned {base : Address} (aligned : isAligned base = true) :
    base.toNat % 4096 = 0 := by
  -- The test for the word zero is read as one for the number.
  have zero := congrArg UInt32.toNat (beq_iff_eq.mp aligned)
  simpa using zero

/-- The addresses of a page are its base and the offsets within it. -/
theorem toNat_add_offset {base : Address} (aligned : isAligned base = true) {offset : Nat}
    (inside : offset < 4096) : (base + UInt32.ofNat offset).toNat = base.toNat + offset := by
  -- An aligned address leaves room for a whole page before the addresses end.
  have remainder := toNat_mod_of_isAligned aligned
  have bound := base.toNat_lt
  rw [UInt32.toNat_add, UInt32.toNat_ofNat_of_lt' (by simp only [UInt32.size]; omega)]
  omega

/-- Two addresses are on the same page if their quotients by the page size agree. -/
theorem pageNumber_eq_iff {va other : Address} :
    pageNumber va = pageNumber other ↔ va.toNat / 4096 = other.toNat / 4096 := by
  -- Numbers of pages are words, and words are the same if their numbers are.
  rw [← UInt32.toNat_inj, toNat_pageNumber, toNat_pageNumber]

/-- All offsets within a page keep its number. -/
theorem pageNumber_add_offset {base : Address} (aligned : isAligned base = true) {offset : Nat}
    (inside : offset < 4096) : pageNumber (base + UInt32.ofNat offset) = pageNumber base := by
  -- The base is a multiple of the page length, and the offset is below it.
  have remainder := toNat_mod_of_isAligned aligned
  rw [pageNumber_eq_iff, toNat_add_offset aligned inside]
  omega

/-- An address lies at its own offset in its page. -/
theorem add_offset_of_pageNumber_eq {va base : Address} (aligned : isAligned base = true)
    (page : pageNumber va = pageNumber base) : base + UInt32.ofNat (va.toNat % 4096) = va := by
  -- Both sides have the same page and the same offset.
  have remainder := toNat_mod_of_isAligned aligned
  have numbers := pageNumber_eq_iff.mp page
  refine UInt32.toNat_inj.mp ?_
  rw [toNat_add_offset aligned (Nat.mod_lt _ (by decide))]
  omega

/-- The number of a page leads to the page and back. -/
theorem pageNumber_mul {page : Word} (small : page.toNat < 1048576) :
    pageNumber (page * pageSize) = page := by
  -- A page number is small enough for its page to have an address.
  refine UInt32.toNat_inj.mp ?_
  rw [toNat_pageNumber, UInt32.toNat_mul, toNat_pageSize]
  omega

/-- Page numbers have twenty bits. -/
theorem toNat_pageNumber_lt (va : Address) : (pageNumber va).toNat < 1048576 := by
  -- There are that many pages in all addresses.
  have bound := va.toNat_lt
  rw [toNat_pageNumber]
  omega

/-- A page number stands for an aligned address. -/
theorem isAligned_mul (page : Word) : isAligned (page * pageSize) = true := by
  -- Also where the product wraps around, it stays a multiple of the page length.
  refine beq_iff_eq.mpr (UInt32.toNat_inj.mp ?_)
  rw [UInt32.toNat_mod, UInt32.toNat_mul, toNat_pageSize, UInt32.toNat_zero]
  omega

/-- The base of a page is aligned. -/
theorem isAligned_pageBase (va : Address) : isAligned (pageBase va) = true := by
  -- The remainder has been taken off.
  refine beq_iff_eq.mpr (UInt32.toNat_inj.mp ?_)
  rw [UInt32.toNat_mod, toNat_pageBase, toNat_pageSize, UInt32.toNat_zero]
  omega

/-- The base of a page lies on the page. -/
theorem pageNumber_pageBase (va : Address) : pageNumber (pageBase va) = pageNumber va := by
  -- Without its remainder the address has the same quotient.
  rw [pageNumber_eq_iff, toNat_pageBase]
  omega

/-- An offset from the base of a page is the offset in the page. -/
theorem add_offset_mod {base : Address} (aligned : isAligned base = true) {offset : Nat}
    (inside : offset < 4096) : ((base + UInt32.ofNat offset) % pageSize).toNat = offset := by
  -- The base adds nothing to the remainder.
  have remainder := toNat_mod_of_isAligned aligned
  rw [UInt32.toNat_mod, toNat_pageSize, toNat_add_offset aligned inside]
  omega

/-- An address behind another one is found at the distance that was added. -/
theorem toNat_add_ofNat_sub (va : Address) {offset : Nat} (short : offset < addressCount) :
    (va + UInt32.ofNat offset - va).toNat = offset := by
  -- The sum may wrap around, and the difference wraps back.
  have count : addressCount = UInt32.size := rfl
  rw [UInt32.add_comm, UInt32.add_sub_cancel, UInt32.toNat_ofNat_of_lt' (by omega)]

/-- An address is found again at its distance from another one. -/
theorem add_ofNat_sub (va other : Address) : va + UInt32.ofNat (other - va).toNat = other := by
  -- The same, with the distance counted as a word.
  rw [UInt32.ofNat_toNat, UInt32.add_comm, UInt32.sub_add_cancel]

end Exokernel
