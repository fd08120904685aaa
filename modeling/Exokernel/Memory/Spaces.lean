import Exokernel.Memory.PageTable

/-! All physical memory, and the address spaces that share it. -/

namespace Exokernel

/-- Name of an address space; a destroyed space's handle may be given out again. -/
structure SpaceHandle where
  /-- Position in the list of spaces. -/
  index : Nat
  deriving DecidableEq

/-- Register encoding of a handle, which is never zero. -/
def SpaceHandle.raw (handle : SpaceHandle) : Nat :=
  handle.index + 1

/-- Physical frames, address spaces, and the space that the processor looks addresses up in. -/
structure Memory where
  /-- The physical frames. -/
  pool : FramePool
  /-- Address spaces by handle; destroyed ones leave a gap. -/
  spaces : Array (Option PageTable) := #[]
  /-- The space in use by the processor. -/
  active : Option SpaceHandle := none

namespace Memory

/-- Memory of `count` free frames without any address space. -/
def ofFrames (count : Nat) : Memory :=
  { pool := FramePool.ofCount count }

/-- Page table of a space, if the handle names one. -/
def table? (memory : Memory) (handle : SpaceHandle) : Option PageTable :=
  memory.spaces[handle.index]?.join

/-- Entry of the page that holds an address of a space. -/
def entryAt? (memory : Memory) (handle : SpaceHandle) (va : Address) : Option PageEntry :=
  (memory.table? handle).bind (·.entryAt? va)

/-- Frame of a space's page table with an index. -/
def tableFrame? (memory : Memory) (handle : SpaceHandle) (index : Word) : Option FrameNumber :=
  (memory.table? handle).bind (·.tables.find? index)

/-- Every mapping of a space in address order; none if there is no such space. -/
def mappings (memory : Memory) (handle : SpaceHandle) : List (Address × PageEntry) :=
  -- Tables are kept in address order.
  match memory.table? handle with
  | some table => table.mappings
  | none => []

/-- Number of frames that can still be allocated. -/
def freeCount (memory : Memory) : Nat :=
  memory.pool.freeCount

/-- The first handle that names no space. -/
def vacantHandle (memory : Memory) : SpaceHandle :=
  -- Past the last space when every handle up to there is in use.
  ⟨(memory.spaces.findIdx? Option.isNone).getD memory.spaces.size⟩

/-- Memory with the page table behind a handle replaced; the handle is used or next in line. -/
def putTable (memory : Memory) (handle : SpaceHandle) (table : Option PageTable) : Memory :=
  -- Handles are handed out in order, so that the next one is behind the last.
  if handle.index < memory.spaces.size then
    { memory with spaces := memory.spaces.setIfInBounds handle.index table }
  else { memory with spaces := memory.spaces.push table }

/-- Creates an empty address space, which takes a frame for its directory. -/
def createSpace (memory : Memory) : Except SpaceError SpaceHandle × Memory :=
  -- The handle is chosen only when there is a table to put behind it.
  match PageTable.create memory.pool with
  | (.error error, pool) => (.error (.mapping error), { memory with pool })
  | (.ok table, pool) =>
    let handle := memory.vacantHandle
    (.ok handle, { memory with pool }.putTable handle (some table))

/-- Releases everything that a space holds, and the space itself. -/
def destroySpace (memory : Memory) (handle : SpaceHandle) : Except SpaceError Unit × Memory :=
  -- A space that goes cannot stay in use.
  match memory.table? handle with
  | none => (.error .unknownSpace, memory)
  | some table =>
    let active := if memory.active = some handle then none else memory.active
    (.ok (), { memory with pool := table.release memory.pool, active }.putTable handle none)

/-- Lets the processor look addresses up in a space from now on, or in none. -/
def activate (memory : Memory) (handle : Option SpaceHandle) : Memory :=
  { memory with active := handle }

/-- Takes a zero-filled frame that nothing refers to. -/
def allocFrame (memory : Memory) : Except MapError FrameNumber × Memory :=
  let (result, pool) := memory.pool.alloc
  (result, { memory with pool })

/-- Gives back a frame that was never mapped. -/
def releaseFrame (memory : Memory) (frame : FrameNumber) : Memory :=
  { memory with pool := memory.pool.release frame }

/-- Maps a frame at an address of a space, in place of what was mapped there. -/
def map (memory : Memory) (handle : SpaceHandle) (va : Address) (frame : FrameNumber)
    (flags : PageFlags) : Except SpaceError Unit × Memory :=
  -- The address is judged before the handle.
  if !isAligned va then (.error (.mapping (.unaligned va)), memory)
  else if userTop ≤ va then (.error (.mapping (.outOfRange va)), memory)
  else match memory.table? handle with
    | none => (.error .unknownSpace, memory)
    | some table =>
      match table.insert memory.pool va frame flags with
      | (.error error, pool) => (.error (.mapping error), { memory with pool })
      | (.ok table, pool) => (.ok (), { memory with pool }.putTable handle (some table))

/-- Removes the mapping of the page that holds an address; an unmapped page is no error. -/
def unmap (memory : Memory) (handle : SpaceHandle) (va : Address) :
    Except SpaceError Unit × Memory :=
  match memory.table? handle with
  | none => (.error .unknownSpace, memory)
  | some table =>
    -- The page table stays, even if it is empty now.
    let (table, pool) := table.remove memory.pool va
    (.ok (), { memory with pool }.putTable handle (some table))

/-- Maps a fresh zero-filled frame; a frame that cannot be mapped is given back. -/
def mapFresh (memory : Memory) (handle : SpaceHandle) (va : Address) (flags : PageFlags) :
    Except SysError Unit × Memory :=
  -- The frame is still unreferenced when the mapping fails, so releasing it frees it.
  match memory.allocFrame with
  | (.error error, memory) => (.error error.toSysError, memory)
  | (.ok frame, memory) =>
    match memory.map handle va frame flags with
    | (.error error, memory) => (.error error.toSysError, memory.releaseFrame frame)
    | (.ok (), memory) => (.ok (), memory)

/-- Makes the next frame allocation fail. -/
def forceFailure (memory : Memory) : Memory :=
  { memory with pool := memory.pool.forceFailure }

end Memory

end Exokernel
