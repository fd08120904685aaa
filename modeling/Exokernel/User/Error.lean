import Exokernel.Abi.SysError
import Exokernel.Text.Hex

/-! Failures that user code sees. -/

namespace Exokernel

/-- Why an operation of user code failed. -/
inductive UserError where
  /-- The kernel refused a system call. -/
  | kernel (cause : SysError)
  /-- The environment lost the processor before the operation was finished. -/
  | descheduled
  /-- The copy-on-write handler was given a fault that is not its own. -/
  | notCopyOnWrite (va : Address) (code : Word)
  /-- A fault arrived while no handler was registered. -/
  | noHandler (va : Address)
  deriving DecidableEq

/-- Text of a failure. -/
def UserError.message : UserError → String
  -- Errors of the kernel have texts of their own.
  | kernel cause => cause.message
  | descheduled => "descheduled"
  | notCopyOnWrite va code =>
    "fault at " ++ hexAddress va ++ " (err 0x" ++ hexShortest code.toNat
      ++ ") is not a write to a copy-on-write page"
  | noHandler va => "page fault at " ++ hexAddress va ++ " with no handler registered"

end Exokernel
