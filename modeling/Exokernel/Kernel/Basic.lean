import Exokernel.Clock
import Exokernel.Console
import Exokernel.Env.Table
import Exokernel.Halt
import Exokernel.Memory.Access

/-! The state of the kernel, and how a kernel entry ends. -/

namespace Exokernel

/-- What the kernel is told at boot. -/
structure Config where
  /-- Number of physical frames. -/
  frames : Nat := 1024
  /-- Milliseconds per timer tick. -/
  period : Word := 10
  deriving DecidableEq

/-- The whole state of the kernel. -/
structure Kernel where
  /-- What the kernel was told at boot. -/
  config : Config
  /-- The environments. -/
  envs : EnvTable
  /-- Physical memory and address spaces. -/
  memory : Memory
  /-- Slot of the environment that owns the processor. -/
  current : Option Slot := none
  /-- Slot dispatched last, where the search for the next one starts. -/
  lastRun : Option Slot := none
  /-- The console. -/
  console : Console := {}
  /-- Entries into the monitor, oldest first. -/
  monitor : Array MonitorEntry := #[]
  /-- Time since boot. -/
  clock : Clock

/-- How the handling of a kernel entry ends. -/
inductive Control (α : Type) where
  /-- The interrupted code goes on, with a value for it. -/
  | stay (value : α)
  /-- The processor does something else. -/
  | leave (decision : Dispatch)
  deriving DecidableEq

namespace Kernel

/-- A kernel in which every slot and every frame is free. -/
def boot (config : Config) : Kernel :=
  -- Console, processor and log are as empty as they can be.
  { config
    envs := .empty
    memory := .ofFrames config.frames
    clock := { period := config.period } }

/-- What a slot of the environment table holds. -/
def envAt (kernel : Kernel) (slot : Slot) : Env :=
  kernel.envs.get slot

/-- The kernel with one environment changed. -/
def modifyEnv (kernel : Kernel) (slot : Slot) (change : Env → Env) : Kernel :=
  { kernel with envs := kernel.envs.modify slot change }

/-- Id of the environment that owns the processor. -/
def currentId (kernel : Kernel) : Option EnvId :=
  kernel.current.map fun slot => (kernel.envAt slot).id

/-- The live environment with exactly this id. -/
def env? (kernel : Kernel) (id : EnvId) : Option Env :=
  -- The slot may hold a later environment, which has another id.
  let env := kernel.envAt id.slot
  if env.isLive && env.id == id then some env else none

/-- Address space of the live environment with exactly this id. -/
def space? (kernel : Kernel) (id : EnvId) : Option SpaceHandle :=
  (kernel.env? id).bind Env.space

/-- Mapped pages of an environment in address order. -/
def mappingsOf (kernel : Kernel) (env : Env) : List (Address × PageEntry) :=
  -- An environment without a space has no pages.
  match env.space with
  | some space => kernel.memory.mappings space
  | none => []

/-- What any environment may read about a slot; positions count modulo the table size. -/
def envInfo (kernel : Kernel) (position : Nat) : EnvInfo :=
  (kernel.envAt (slotAt position)).info

/-- The slot of the environment that owns the processor. -/
def owner (kernel : Kernel) : Except SysError Slot :=
  -- A call without an owner is answered like one by a bad environment.
  match kernel.current with
  | some slot => .ok slot
  | none => .error .badEnv

/-- The address space of an environment. -/
def spaceOf (kernel : Kernel) (slot : Slot) : Except SysError SpaceHandle :=
  -- A slot that is free has none.
  match (kernel.envAt slot).space with
  | some space => .ok space
  | none => .error .badEnv

/-- The slot of an id that the current environment may change: itself or one of its children. -/
def findOwned (kernel : Kernel) (id : EnvId) : Except SysError Slot :=
  kernel.envs.findOwned id kernel.current

/-- Adds an entry to the monitor's log. -/
def enterMonitor (kernel : Kernel) (entry : MonitorEntry) : Kernel :=
  { kernel with monitor := kernel.monitor.push entry }

/-- Stops scheduling, with the reason in the monitor's log. -/
def halt (kernel : Kernel) (reason : Halt) : Dispatch × Kernel :=
  -- Nobody owns the processor of a stopped kernel.
  let stopped := { kernel with current := none, memory := kernel.memory.activate none }
  (.halt reason, stopped.enterMonitor (.halt reason))

/-- Makes the next frame allocation fail. -/
def forceFailure (kernel : Kernel) : Kernel :=
  { kernel with memory := kernel.memory.forceFailure }

end Kernel

end Exokernel
