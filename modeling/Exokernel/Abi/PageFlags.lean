import Exokernel.Layout

/-! Flag bits of page-table entries, and which of them environments may ask for. -/

namespace Exokernel

/-- Flags in the low bits of a page-table entry. -/
structure PageFlags where
  /-- The flag bits; bits without a meaning are kept so that checks can refuse them. -/
  bits : Word
  deriving DecidableEq

namespace PageFlags

/-- No flags. -/
def empty : PageFlags := ⟨0⟩

/-- The entry maps a page. -/
def present : PageFlags := ⟨0x001⟩

/-- The page may be written. -/
def writable : PageFlags := ⟨0x002⟩

/-- The page may be used in user mode. -/
def user : PageFlags := ⟨0x004⟩

/-- Bits left to software. -/
def available : PageFlags := ⟨0xe00⟩

/-- Every flag that has a meaning. -/
def all : PageFlags := ⟨0xfff⟩

/-- The software bit by which user code marks a page to be copied before it is written. -/
def copyOnWrite : PageFlags := ⟨0x800⟩

/-- Both sets of flags together. -/
def union (left right : PageFlags) : PageFlags :=
  ⟨left.bits ||| right.bits⟩

/-- Sets are united with the operator for bits. -/
instance : OrOp PageFlags := ⟨union⟩

/-- The flags of the first set that are not in the second. -/
def without (flags removed : PageFlags) : PageFlags :=
  ⟨flags.bits &&& ~~~removed.bits⟩

/-- All wanted flags are set. -/
def contains (flags wanted : PageFlags) : Bool :=
  flags.bits &&& wanted.bits == wanted.bits

/-- Some flag is in both sets. -/
def intersects (flags others : PageFlags) : Bool :=
  flags.bits &&& others.bits != 0

/-- No flag is set. -/
def isEmpty (flags : PageFlags) : Bool :=
  flags.bits == 0

/-- Flags that every permission given by user code must have. -/
def required : PageFlags := present ||| user

/-- Flags that a permission given by user code may have. -/
def permitted : PageFlags := available ||| present ||| writable ||| user

/-- Read and write access from user mode. -/
def readWrite : PageFlags := present ||| user ||| writable

/-- User code may ask for a permission with all required flags and only permitted ones. -/
def isUserPermission (flags : PageFlags) : Bool :=
  -- Both directions matter: nothing may be missing and nothing may be added.
  flags.contains required && permitted.contains flags

end PageFlags

/-- Frame address part of a raw page-table entry. -/
def entryAddress (entry : Word) : Address :=
  -- Flags take the bits below the page size.
  pageBase entry

end Exokernel
