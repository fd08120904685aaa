import Exokernel.Abi.SysError

/-! Scheduling states of environments. -/

namespace Exokernel

/-- Scheduling state of an environment. -/
inductive Status where
  /-- The slot holds no environment. -/
  | free
  /-- The environment may be scheduled. -/
  | runnable
  /-- The environment waits for a message, or for its parent to start it. -/
  | notRunnable
  /-- The environment is being taken apart. -/
  | dying
  deriving DecidableEq

namespace Status

/-- Register encoding of a state. -/
def toWord : Status → Word
  -- Numbers are part of the interface, and do not depend on the order here.
  | free => 0
  | runnable => 1
  | notRunnable => 2
  | dying => 3

/-- The state that a word encodes. -/
def decode : Word → Except SysError Status
  -- Any other word is refused.
  | 0 => .ok free
  | 1 => .ok runnable
  | 2 => .ok notRunnable
  | 3 => .ok dying
  | _ => .error .invalid

/-- Name of a state. -/
def name : Status → String
  -- Names are as in the listings of the monitor.
  | free => "Free"
  | runnable => "Runnable"
  | notRunnable => "NotRunnable"
  | dying => "Dying"

end Status

end Exokernel
