import Exokernel.Kernel.Basic
import Exokernel.Kernel.Request

/-! System calls that change mappings: every check comes before the first change. -/

namespace Exokernel

/-- A frame that is about to be mapped at a page of a space. -/
structure PlannedMapping where
  /-- Space in which the page lies. -/
  space : SpaceHandle
  /-- Address of the page. -/
  va : Address
  /-- Frame to map there. -/
  frame : FrameNumber
  /-- Permission to map with. -/
  flags : PageFlags

namespace PlannedMapping

/-- Carries out a planned mapping. -/
def apply (planned : PlannedMapping) (memory : Memory) : Except SysError Unit × Memory :=
  let (result, memory) := memory.map planned.space planned.va planned.frame planned.flags
  (result.mapError SpaceError.toSysError, memory)

/-- Removes what is mapped at the page, then carries out the planned mapping. -/
def replace (planned : PlannedMapping) (memory : Memory) : Except SysError Unit × Memory :=
  -- The old frame is given back before the new one is mapped.
  match memory.unmap planned.space planned.va with
  | (.error error, memory) => (.error error.toSysError, memory)
  | (.ok (), memory) => planned.apply memory

end PlannedMapping

namespace Kernel

/-- Where a fresh page goes, if the request may be carried out. -/
def resolveAlloc (kernel : Kernel) (request : AllocRequest) :
    Except SysError (SpaceHandle × UserPage × PageFlags) := do
  -- The environment is judged before the address, and the address before the permission.
  let slot ← kernel.findOwned request.target
  let (page, flags) ← request.check
  let space ← kernel.spaceOf slot
  return (space, page, flags)

/-- Maps a fresh zero-filled page. -/
def allocPage (kernel : Kernel) (request : AllocRequest) : Except SysError Unit × Kernel :=
  match kernel.resolveAlloc request with
  | .error error => (.error error, kernel)
  -- Memory may have lost a frame to a page table even if the page itself fails.
  | .ok (space, page, flags) =>
    let (result, memory) := kernel.memory.mapFresh space page.address flags
    (result, { kernel with memory })

/-- Frame mapped at a page, if it may be passed on with a permission. -/
def shareable (kernel : Kernel) (space : SpaceHandle) (page : UserPage) (flags : PageFlags) :
    Except SysError FrameNumber := do
  -- A permission to write can only be passed on by those who have it.
  match kernel.memory.entryAt? space page.address with
  | some entry =>
    checkNoEscalation flags entry.flags
    return entry.frame
  | none => throw .invalid

/-- The mapping that a request asks for, if it may be carried out. -/
def resolveMap (kernel : Kernel) (request : MapRequest) : Except SysError PlannedMapping := do
  -- The order is that of the errors: environments first, then arguments, then the page.
  let source ← kernel.findOwned request.source
  let target ← kernel.findOwned request.target
  let (sourcePage, targetPage, flags) ← request.check
  let sourceSpace ← kernel.spaceOf source
  let targetSpace ← kernel.spaceOf target
  let frame ← kernel.shareable sourceSpace sourcePage flags
  return { space := targetSpace, va := targetPage.address, frame, flags }

/-- Maps a page that is mapped elsewhere. -/
def mapPage (kernel : Kernel) (request : MapRequest) : Except SysError Unit × Kernel :=
  match kernel.resolveMap request with
  | .error error => (.error error, kernel)
  -- Memory may have changed even if the mapping fails.
  | .ok planned =>
    let (result, memory) := planned.apply kernel.memory
    (result, { kernel with memory })

/-- The page whose mapping a request removes, if it may be carried out. -/
def resolveUnmap (kernel : Kernel) (request : UnmapRequest) :
    Except SysError (SpaceHandle × UserPage) := do
  -- The order is that of the errors: the environment first, then the page.
  let slot ← kernel.findOwned request.target
  let page ← checkPage request.va
  let space ← kernel.spaceOf slot
  return (space, page)

/-- Removes a mapping; a page that is not mapped is no error. -/
def unmapPage (kernel : Kernel) (request : UnmapRequest) : Except SysError Unit × Kernel :=
  match kernel.resolveUnmap request with
  | .error error => (.error error, kernel)
  -- The frame is freed with its last mapping.
  | .ok (space, page) =>
    let (result, memory) := kernel.memory.unmap space page.address
    (result.mapError SpaceError.toSysError, { kernel with memory })

end Kernel

end Exokernel
