import Exokernel.Abi.EnvInfo
import Exokernel.Memory.Spaces
import Exokernel.TrapFrame

/-! One environment: its saved registers, its address space and its mailbox. -/

namespace Exokernel

/-- Where messages to an environment arrive. -/
structure Mailbox where
  /-- The environment waits for a message. -/
  receiving : Bool := false
  /-- Sender of the last message. -/
  sender : EnvId := .self
  /-- Value of the last message. -/
  value : Word := 0
  /-- Where a page that comes with a message goes; without it pages are refused. -/
  landing : Option Address := none
  /-- Permission of the page that came with the last message, empty if none did. -/
  permission : PageFlags := .empty
  deriving DecidableEq

/-- What the kernel keeps about a slot of the environment table. -/
structure Env where
  /-- Registers to resume from. -/
  frame : TrapFrame := {}
  /-- Current id of the slot. -/
  id : EnvId := .self
  /-- Id of the creator. -/
  parent : EnvId := .self
  /-- Scheduling state. -/
  status : Status := .free
  /-- Number of times dispatched. -/
  runs : Word := 0
  /-- Address space. -/
  space : Option SpaceHandle := none
  /-- Registered page-fault entry point. -/
  faultEntry : Option Address := none
  /-- Where messages arrive. -/
  mailbox : Mailbox := {}
  deriving DecidableEq

namespace Env

/-- The environment exists. -/
def isLive (env : Env) : Bool :=
  env.status != .free

/-- The environment may be scheduled. -/
def isRunnable (env : Env) : Bool :=
  env.status == .runnable

/-- A send can be delivered: the environment has asked for a message and is still blocked. -/
def awaitsMessage (env : Env) : Bool :=
  -- The wish alone is not enough: another environment may have made this one runnable again.
  env.mailbox.receiving && env.status == .notRunnable

/-- The part of an environment that every other one may read. -/
def info (env : Env) : EnvInfo :=
  -- Registers, address space and landing place are not told.
  { id := env.id
    parent := env.parent
    status := env.status
    runs := env.runs
    faultEntry := env.faultEntry.getD 0
    receiving := env.mailbox.receiving
    sender := env.mailbox.sender
    value := env.mailbox.value
    permission := env.mailbox.permission }

/-- A new environment in a slot: runnable, with a fresh register file and an empty mailbox. -/
def fresh (id parent : EnvId) (space : SpaceHandle) : Env :=
  -- Whoever creates the environment still has to say where it starts.
  { frame := .initial, id, parent, status := .runnable, space := some space }

/-- What stays of an environment after it is gone: its id, so that the next one differs. -/
def vacated (env : Env) : Env :=
  -- Registers, creator and run count are left, and overwritten by the next environment.
  { env with status := .free, space := none, faultEntry := none, mailbox := {} }

/-- The environment with another value in the saved result register. -/
def withResult (env : Env) (value : Word) : Env :=
  { env with frame := env.frame.withResult value }

/-- The environment blocked where another one is, to go on from there with a zero result. -/
def asChildOf (env parent : Env) : Env :=
  { env with status := .notRunnable, frame := parent.frame.withResult 0 }

/-- The environment blocked until a message arrives, with the place where a page may land. -/
def waiting (env : Env) (landing : Option Address) : Env :=
  { env with status := .notRunnable, mailbox := { env.mailbox with receiving := true, landing } }

end Env

end Exokernel
