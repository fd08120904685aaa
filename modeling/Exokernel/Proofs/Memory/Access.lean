import Exokernel.Proofs.Abi.PageFlags
import Exokernel.Proofs.Memory.Spaces

/-! A range of user memory that passes the check can be read and written as a whole. -/

namespace Exokernel.Memory

/-- A checked run of pages has every page in user memory, mapped with the wanted flags. -/
theorem checkPages_ok {memory : Memory} {handle : SpaceHandle} {start : Address}
    {wanted : PageFlags} {count : Nat} {page : Address}
    (passed : memory.checkPages handle start wanted count page = .ok ()) :
    ∀ step < count, page + UInt32.ofNat (step * 4096) < userTop ∧
      memory.allows handle (page + UInt32.ofNat (step * 4096)) wanted = true := by
  -- Induct on the number of pages: the check looks at one and goes on behind it.
  induction count generalizing page with
  | zero => simp
  | succ count ih =>
    simp only [checkPages] at passed
    split at passed
    · simp at passed
    · rename_i good
      obtain ⟨below, allowed⟩ := not_or.mp good
      intro step inside
      cases step with
      | zero => simpa using ⟨UInt32.not_le.mp below, by simpa using allowed⟩
      | succ step =>
        -- The next page of this run is the first page of the rest.
        rw [page_succ]
        exact ih passed step (by omega)

/-- What is allowed at one address is allowed on the whole page. -/
theorem allows_congr (memory : Memory) (handle : SpaceHandle) {va other : Address}
    (same : pageNumber va = pageNumber other) (wanted : PageFlags) :
    memory.allows handle va wanted = memory.allows handle other wanted := by
  -- The answer depends on the entry, and entries are kept by page.
  simp only [allows, entryAt?, PageTable.entryAt?, same]

/-- Below the last page of all addresses, a range that passes the check is accessible throughout. -/
theorem userCheck_ok {memory : Memory} {handle : SpaceHandle} {va length : Word}
    {flags : PageFlags} (passed : memory.userCheck handle va length flags = .ok ())
    (low : va.toNat + length.toNat ≤ 4294963200) {offset : Nat} (inside : offset < length.toNat) :
    va + UInt32.ofNat offset < userTop ∧
      memory.allows handle (va + UInt32.ofNat offset) (flags ||| .present ||| .user) = true := by
  -- Find the page that the address lies on among those that were checked.
  simp only [userCheck] at passed
  rw [if_pos (by show _ < 4294967296; omega)] at passed
  have pages := checkPages_ok passed
  have address : (va + UInt32.ofNat offset).toNat = va.toNat + offset :=
    toNat_add_of_lt (by show _ < 4294967296; omega)
  have stop : (va + length).toNat = va.toNat + length.toNat := by
    rw [UInt32.toNat_add, Nat.mod_eq_of_lt (by omega)]
  -- The address lies on one of the pages counted from the first.
  obtain ⟨step, step_eq⟩ : ∃ step, step = (va.toNat + offset) / 4096 - va.toNat / 4096 := ⟨_, rfl⟩
  have counted : step < pagesSpanned va (va + length) := by
    rw [pagesSpanned_eq va (by omega), stop, step_eq]
    omega
  have aligned : (pageBase va + UInt32.ofNat (step * 4096)).toNat =
      (va.toNat + offset) / 4096 * 4096 := by
    rw [toNat_page_add (by omega), step_eq]
    omega
  obtain ⟨below, allowed⟩ := pages step counted
  refine ⟨?_, ?_⟩
  · -- User memory ends at a page boundary.
    rw [UInt32.lt_iff_toNat_lt, aligned, toNat_userTop] at below
    rw [UInt32.lt_iff_toNat_lt, address, toNat_userTop]
    omega
  · rw [← allowed]
    refine allows_congr memory handle (pageNumber_eq_iff.mpr ?_) _
    rw [address, aligned]
    omega

/-- Bytes can be written to a range that is mapped throughout. -/
theorem copyOut_ok {memory : Memory} {handle : SpaceHandle} {va : Address} {bytes : List UInt8}
    (mapped : ∀ offset < bytes.length,
      (memory.entryAt? handle (va + UInt32.ofNat offset)).isSome) :
    (memory.copyOut handle va bytes).1 = .ok () := by
  -- Induct on the bytes: the first one is mapped, and the rest starts one address later.
  fun_induction copyOut memory handle va bytes with
  | case1 => rfl
  | case2 memory va byte rest missing =>
    have first := mapped 0 (by simp)
    simp [missing] at first
  | case3 memory va byte rest entry found pool ih =>
    refine ih fun offset inside => ?_
    have later := mapped (offset + 1) (by simpa using inside)
    -- The bytes written so far change no mapping.
    rw [offset_succ] at later
    exact later

end Exokernel.Memory
