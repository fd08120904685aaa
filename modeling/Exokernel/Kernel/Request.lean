import Exokernel.Abi.EnvId
import Exokernel.Abi.PageFlags
import Exokernel.Abi.Syscall

/-! Argument words of the system calls, read as what they mean and checked. -/

namespace Exokernel

/-- A user page given by its address. -/
def checkPage (va : Address) : Except SysError UserPage :=
  -- Unaligned addresses and those beyond user memory are refused alike.
  match UserPage.ofAddress? va with
  | some page => .ok page
  | none => .error .invalid

/-- A permission that user code may ask for. -/
def checkPermission (flags : PageFlags) : Except SysError PageFlags :=
  if flags.isUserPermission then .ok flags else .error .invalid

/-- A page that may not be written cannot be passed on as writable. -/
def checkNoEscalation (wanted held : PageFlags) : Except SysError Unit :=
  if wanted.contains .writable && !held.contains .writable then .error .invalid else .ok ()

/-- A request to map a fresh page. -/
structure AllocRequest where
  /-- Environment in which to map. -/
  target : EnvId
  /-- Address to map at. -/
  va : Address
  /-- Permission to map with. -/
  flags : PageFlags

namespace AllocRequest

/-- Reads the argument words. -/
def ofArguments (words : Arguments) : AllocRequest :=
  { target := ⟨words.first⟩, va := words.second, flags := ⟨words.third⟩ }

/-- Checks the address, then the permission. -/
def check (request : AllocRequest) : Except SysError (UserPage × PageFlags) := do
  -- Of two bad arguments the address is the one that is told.
  let page ← checkPage request.va
  let flags ← checkPermission request.flags
  return (page, flags)

end AllocRequest

/-- A request to map a page that is mapped elsewhere. -/
structure MapRequest where
  /-- Environment that has the page. -/
  source : EnvId
  /-- Address of the page there. -/
  sourceVa : Address
  /-- Environment that gets the page. -/
  target : EnvId
  /-- Address of the page there. -/
  targetVa : Address
  /-- Permission to map with. -/
  flags : PageFlags

namespace MapRequest

/-- Reads the argument words. -/
def ofArguments (words : Arguments) : MapRequest :=
  -- All five words are used.
  { source := ⟨words.first⟩, sourceVa := words.second
    target := ⟨words.third⟩, targetVa := words.fourth
    flags := ⟨words.fifth⟩ }

/-- Checks both addresses, then the permission. -/
def check (request : MapRequest) : Except SysError (UserPage × UserPage × PageFlags) := do
  -- Whether the source is mapped is seen only later.
  let source ← checkPage request.sourceVa
  let target ← checkPage request.targetVa
  let flags ← checkPermission request.flags
  return (source, target, flags)

end MapRequest

/-- A request to remove a mapping. -/
structure UnmapRequest where
  /-- Environment in which to remove it. -/
  target : EnvId
  /-- Address of the mapping. -/
  va : Address

/-- Reads the argument words. -/
def UnmapRequest.ofArguments (words : Arguments) : UnmapRequest :=
  { target := ⟨words.first⟩, va := words.second }

/-- A request to send a message. -/
structure SendRequest where
  /-- Receiver. -/
  target : EnvId
  /-- The message. -/
  value : Word
  /-- Page to send along; an address past user memory sends none. -/
  sourceVa : Address
  /-- Permission for the page. -/
  flags : PageFlags

/-- Reads the argument words. -/
def SendRequest.ofArguments (words : Arguments) : SendRequest :=
  { target := ⟨words.first⟩, value := words.second
    sourceVa := words.third, flags := ⟨words.fourth⟩ }

end Exokernel
