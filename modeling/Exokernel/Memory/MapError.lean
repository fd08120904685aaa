import Exokernel.Abi.SysError
import Exokernel.Text.Hex

/-! Failures of the memory layer. -/

namespace Exokernel

/-- Why a page could not be mapped. -/
inductive MapError where
  /-- No frame is left for the page or its page table. -/
  | outOfMemory
  /-- The address does not start a page. -/
  | unaligned (va : Address)
  /-- The address is not in user memory. -/
  | outOfRange (va : Address)
  deriving DecidableEq

/-- Text of a mapping failure. -/
def MapError.message : MapError → String
  -- Addresses are those of the request.
  | outOfMemory => "out of physical memory"
  | unaligned va => "address " ++ hexAddress va ++ " is not page aligned"
  | outOfRange va => "address " ++ hexAddress va ++ " is outside user space"

/-- The error that a system call reports for a mapping failure. -/
def MapError.toSysError : MapError → SysError
  | outOfMemory => .outOfMemory
  | unaligned _ | outOfRange _ => .invalid

/-- Why an operation on an address space failed. -/
inductive SpaceError where
  /-- The handle names no address space. -/
  | unknownSpace
  /-- A page could not be mapped. -/
  | mapping (cause : MapError)
  deriving DecidableEq

/-- Text of an address-space failure. -/
def SpaceError.message : SpaceError → String
  | unknownSpace => "unknown address space"
  | mapping cause => cause.message

/-- The error that a system call reports for an address-space failure. -/
def SpaceError.toSysError : SpaceError → SysError
  | unknownSpace => .badEnv
  | mapping cause => cause.toSysError

end Exokernel
