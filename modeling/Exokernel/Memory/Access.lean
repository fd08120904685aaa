import Exokernel.Memory.Spaces

/-! Checking user addresses, and copying bytes into and out of address spaces. -/

namespace Exokernel.Memory

/-- A page of user memory is mapped with all the wanted flags. -/
def allows (memory : Memory) (handle : SpaceHandle) (va : Address) (wanted : PageFlags) : Bool :=
  -- What is not mapped has no flags at all.
  match memory.entryAt? handle va with
  | some entry => entry.flags.contains wanted
  | none => false

/-- Checks `count` pages from `page` on; the first bad address is not reported below `start`. -/
def checkPages (memory : Memory) (handle : SpaceHandle) (start : Address) (wanted : PageFlags) :
    Nat → Address → Except Address Unit
  -- The first page may begin below the range, and then the range's start is the bad address.
  | 0, _ => .ok ()
  | count + 1, page =>
    if userTop ≤ page ∨ !memory.allows handle page wanted then .error (max page start)
    else checkPages memory handle start wanted count (page + pageSize)

/--
Checks that a range lies in user memory and that all its pages are mapped for user mode with the
given flags; otherwise reports the first bad address.

The pages are counted up to the last page boundary of memory, which leaves out the page above it.
-/
def userCheck (memory : Memory) (handle : SpaceHandle) (va length : Word) (flags : PageFlags) :
    Except Address Unit :=
  -- A range that wraps around is bad from its start.
  if va.toNat + length.toNat < addressCount then
    memory.checkPages handle va (flags ||| .present ||| .user)
      (pagesSpanned va (va + length)) (pageBase va)
  else .error va

/-- Nothing is mapped at an address of a space. -/
def isUnmapped (memory : Memory) (handle : SpaceHandle) (va : Address) : Bool :=
  (memory.entryAt? handle va).isNone

/-- The byte at an address of a space; zero where nothing is mapped. -/
def byteAt (memory : Memory) (handle : SpaceHandle) (va : Address) : UInt8 :=
  -- The offset in the page is the same in the frame.
  match memory.entryAt? handle va with
  | some entry => memory.pool.byteAt entry.frame (va % pageSize).toNat
  | none => 0

/-- Reads bytes whatever their permissions; fails at the first unmapped address. -/
def copyIn (memory : Memory) (handle : SpaceHandle) (va : Address) (length : Nat) :
    Except Address (List UInt8) :=
  -- Nothing is read unless every address of the range is mapped.
  match firstAddress (memory.isUnmapped handle) length va with
  | some bad => .error bad
  | none => .ok ((addressRange va length).map (memory.byteAt handle))

/--
Writes bytes whatever the permissions; fails at the first unmapped address, with the bytes before
it written.
-/
def copyOut (memory : Memory) (handle : SpaceHandle) :
    Address → List UInt8 → Except Address Unit × Memory
  -- Writing changes no mapping, so each byte is looked up in the same space.
  | _, [] => (.ok (), memory)
  | va, byte :: rest =>
    match memory.entryAt? handle va with
    | none => (.error va, memory)
    | some entry =>
      let pool := memory.pool.setByte entry.frame (va % pageSize).toNat byte
      copyOut { memory with pool } handle (va + 1) rest

end Exokernel.Memory
