import Exokernel.Abi.EnvId
import Exokernel.Abi.PageFlags
import Exokernel.Abi.Status

/-! What every environment may read about a slot of the environment table. -/

namespace Exokernel

/-- Read-only view of one slot. -/
structure EnvInfo where
  /-- Current id of the slot. -/
  id : EnvId := .self
  /-- Id of the creator. -/
  parent : EnvId := .self
  /-- Scheduling state. -/
  status : Status := .free
  /-- Number of times dispatched. -/
  runs : Word := 0
  /-- Registered page-fault entry point, zero if none. -/
  faultEntry : Word := 0
  /-- The environment waits for a message. -/
  receiving : Bool := false
  /-- Sender of the last message. -/
  sender : EnvId := .self
  /-- Value of the last message. -/
  value : Word := 0
  /-- Permission of the page that came with the last message, empty if none did. -/
  permission : PageFlags := .empty
  deriving DecidableEq

end Exokernel
