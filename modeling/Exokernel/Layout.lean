/-! The virtual memory layout that the kernel and every environment agree on. -/

namespace Exokernel

/-- A 32-bit machine word. -/
abbrev Word := UInt32

/-- A 32-bit virtual address. -/
abbrev Address := UInt32

/-- Number of addresses, which is also the number of words. -/
abbrev addressCount : Nat := 4294967296

/-- Number of bytes in a page. -/
abbrev pageLength : Nat := 4096

/-- Bytes in a page, as an address offset. -/
abbrev pageSize : Address := 4096

/-- Number of low address bits that select a byte within a page. -/
abbrev pageBits : Nat := 12

/-- Bytes mapped by one page table. -/
abbrev tableSpan : Address := 0x400000

/-- Number of low address bits that select a byte within one page table's span. -/
abbrev tableBits : Nat := 22

/-- Entries in a page table or a page directory. -/
abbrev tableEntries : Nat := 1024

/-- End of the kernel views that environments may read. -/
abbrev viewsTop : Address := 0xef800000

/-- End of user memory: no environment maps anything at or above this address. -/
abbrev userTop : Address := 0xeec00000

/-- End of the one-page stack on which page-fault handlers run. -/
abbrev exceptionStackTop : Address := userTop

/-- End of the normal user stack, one guard page below the exception stack. -/
abbrev stackTop : Address := 0xeebfe000

/-- Where programs are placed, and where the fault entry point of the user library lies. -/
abbrev textStart : Address := 0x800000

/-- Start of the area for temporary mappings. -/
abbrev scratchStart : Address := 0x400000

/-- Page on which fault handlers assemble a page before it is mapped where it belongs. -/
abbrev copyPage : Address := 0x7ff000

/-- Start of the page that holds an address. -/
def pageBase (va : Address) : Address :=
  va - va % pageSize

/-- First page boundary at or above an address; the last one if there is none. -/
def pageCeiling (va : Address) : Address :=
  -- Above the last boundary the sum would wrap around.
  if va ≤ 0xfffff000 then pageBase (va + 4095) else 0xfffff000

/-- Number of the page that holds an address. -/
def pageNumber (va : Address) : Word :=
  va / pageSize

/-- Index of the page table that covers an address. -/
def tableIndex (va : Address) : Word :=
  va / tableSpan

/-- An address is aligned when it starts a page. -/
def isAligned (va : Address) : Bool :=
  va % pageSize == 0

/-- Number of pages from the page of `first` up to the page boundary at or above `last`. -/
def pagesSpanned (first last : Address) : Nat :=
  -- Both bounds are page boundaries, so the division is exact.
  ((pageCeiling last).toNat - (pageBase first).toNat) / pageLength

/-- The `length` consecutive addresses from `start`, wrapping around at the top of memory. -/
def addressRange (start : Address) (length : Nat) : List Address :=
  -- Word addition is what wraps.
  (List.range length).map fun offset => start + UInt32.ofNat offset

/-- The first of `count` addresses from `start` on that satisfies a test. -/
def firstAddress (test : Address → Bool) : Nat → Address → Option Address
  -- The search stops at the first hit, so a long range costs no more than its good part.
  | 0, _ => none
  | count + 1, start => if test start then some start else firstAddress test count (start + 1)

/-- A page-aligned address below the end of user memory. -/
structure UserPage where
  /-- Start of the page. -/
  address : Address
  /-- The address starts a page. -/
  aligned : isAligned address = true
  /-- The page lies in user memory. -/
  below : address < userTop
  deriving DecidableEq

/-- The user page that starts at an address, if one does. -/
def UserPage.ofAddress? (va : Address) : Option UserPage :=
  -- The two tests are the two facts that the page carries.
  if range : va < userTop then
    if aligned : isAligned va then some ⟨va, aligned, range⟩ else none
  else none

end Exokernel
