import Exokernel.Abi.Cpu
import Exokernel.Kernel.Loader
import Exokernel.Kernel.Trap

/-! One processor with its memory management, and the kernel that it traps into. -/

namespace Exokernel

/-- Length of the system call instruction, past which an environment goes on. -/
def syscallLength : Word := 2

/-- What the processor is doing. -/
inductive CpuState where
  /-- Not started yet. -/
  | reset
  /-- Running an environment in user mode. -/
  | running (env : EnvId) (frame : TrapFrame)
  /-- Stopped. -/
  | halted (reason : Halt)

/-- A processor and its kernel. -/
structure Machine where
  /-- The kernel. -/
  kernel : Kernel
  /-- What the processor is doing. -/
  cpu : CpuState := .reset

namespace Machine

/-- The environment that is running. -/
def current (machine : Machine) : Option EnvId :=
  -- While the kernel is idle or has stopped, nobody runs.
  match machine.cpu with
  | .running env _ => some env
  | _ => none

/-- The registers of the running environment. -/
def frame? (machine : Machine) : Option TrapFrame :=
  -- They are in the processor, and not yet saved in the table.
  match machine.cpu with
  | .running _ frame => some frame
  | _ => none

/-- Why the processor stopped. -/
def halted? (machine : Machine) : Option Halt :=
  -- A processor that has stopped stays so, as every step of a machine looks for one that runs.
  match machine.cpu with
  | .halted reason => some reason
  | _ => none

/-- Does what the kernel decided. -/
def apply (outcome : Dispatch × Kernel) : Machine :=
  -- The decision says what the processor does next, and the kernel comes with it.
  match outcome with
  | (.resume env frame, kernel) => { kernel, cpu := .running env frame }
  | (.halt reason, kernel) => { kernel, cpu := .halted reason }

/-- Starts scheduling. -/
def boot (machine : Machine) : Machine :=
  apply machine.kernel.reschedule

/-- Traps from the running environment; nothing happens while none runs. -/
def raise (machine : Machine) (vector code : Word) (address : Address) : Machine :=
  -- The live registers are what the kernel saves.
  match machine.cpu with
  | .running _ frame => apply (machine.kernel.trap { frame with vector, code } address)
  | _ => machine

/-- Delivers an interrupt line. -/
def interrupt (machine : Machine) (line : Word) : Machine :=
  machine.raise (TrapVector.irqBase + line) 0 0

/-- Delivers a timer interrupt. -/
def timerInterrupt (machine : Machine) : Machine :=
  machine.interrupt TrapVector.timerLine

/-- The running environment executes an instruction that raises an exception. -/
def exception (machine : Machine) (vector code : Word) : Machine :=
  machine.raise vector code 0

/-- A trap while the kernel itself was executing. -/
def kernelTrap (machine : Machine) (vector eip : Word) (address : Address) : Machine :=
  apply (machine.kernel.trap (.kernel vector eip) address)

/-- An environment is the one that is running. -/
def isRunning (machine : Machine) (env : EnvId) : Bool :=
  machine.current == some env

/-- Delivers at most `count` timer interrupts, until an environment runs. -/
def preempt (env : EnvId) : Nat → Machine → Bool × Machine
  | 0, machine => (machine.isRunning env, machine)
  -- Every interrupt gives the processor to the next runnable environment in turn.
  | count + 1, machine =>
    match machine.current with
    | none => (false, machine)
    | some running =>
      if running = env then (true, machine) else preempt env count machine.timerInterrupt

/-- Delivers timer interrupts until an environment runs, for one round through all slots. -/
def preemptUntil (machine : Machine) (env : EnvId) : Bool × Machine :=
  preempt env (slotCount + 1) machine

/-- How an operation that trapped ends for the environment that started it. -/
def trappedFor (machine : Machine) (env : EnvId) : Trapped :=
  -- The kernel resumes a faulting environment only at its fault entry point.
  if machine.isRunning env then .upcall else .descheduled

/-- Fault code of a refused access in user mode, the page's presence aside. -/
def accessCode (write : Bool) : Word :=
  if write then userFault ||| writeFault else userFault

/-- Permission that an access needs. -/
def accessFlags (write : Bool) : PageFlags :=
  if write then .user ||| .writable else .user

/-- Fault code with which the memory management refuses an access to one byte, if it does. -/
def refusal? (machine : Machine) (write : Bool) (va : Address) : Option Word :=
  match machine.kernel.memory.active with
  | none => some (accessCode write)
  | some space =>
    -- The address is compared first, as tables above the user's top are no business of a user.
    if userTop ≤ va then some (accessCode write)
    else match machine.kernel.memory.entryAt? space va with
      | none => some (accessCode write)
      | some entry =>
        if entry.flags.contains (accessFlags write) then none
        else some (accessCode write ||| protectionFault)

/-- The first refused address of a range. -/
def firstRefusal (machine : Machine) (write : Bool) (va : Address) (length : Nat) :
    Option Address :=
  firstAddress (fun address => (machine.refusal? write address).isSome) length va

/--
Takes the page fault of the first refused address of a range; without one, gives the space in
which the whole range can be used.
-/
def resolveRange (machine : Machine) (write : Bool) (va : Address) (length : Nat) :
    Except Trapped SpaceHandle × Machine :=
  match machine.current with
  | none => (.error .descheduled, machine)
  | some env =>
    match machine.firstRefusal write va length with
    | some address =>
      -- The code is that of the first refused byte, whatever comes after it.
      let code := (machine.refusal? write address).getD 0
      let machine := machine.raise TrapVector.pageFault code address
      (.error (machine.trappedFor env), machine)
    | none =>
      match machine.kernel.memory.active with
      | some space => (.ok space, machine)
      | none => (.error .descheduled, machine)

/-- Reads user memory; nothing is read unless the whole range may be. -/
def load (machine : Machine) (va : Address) (length : Nat) :
    Except Trapped (List UInt8) × Machine :=
  match machine.resolveRange false va length with
  | (.error trapped, machine) => (.error trapped, machine)
  | (.ok space, machine) =>
    -- A range that has been resolved can be read, so that the last case does not occur.
    match machine.kernel.memory.copyIn space va length with
    | .ok bytes => (.ok bytes, machine)
    | .error _ => (.error .descheduled, machine)

/-- Writes user memory; nothing is written unless the whole range may be. -/
def store (machine : Machine) (va : Address) (data : List UInt8) : Except Trapped Unit × Machine :=
  match machine.resolveRange true va data.length with
  | (.error trapped, machine) => (.error trapped, machine)
  | (.ok space, machine) =>
    -- Permissions have been checked, and the copy itself asks for none.
    let (result, memory) := machine.kernel.memory.copyOut space va data
    (result.mapError fun _ => .descheduled,
      { machine with kernel := { machine.kernel with memory } })

/-- The registers as a system call instruction leaves them for the kernel. -/
def callFrame (frame : TrapFrame) (call : Syscall) (words : Arguments) : TrapFrame :=
  -- The call number goes to the first register, the arguments to five others.
  let regs :=
    { frame.context.regs with
      eax := call.number
      edx := words.first
      ecx := words.second
      ebx := words.third
      edi := words.fourth
      esi := words.fifth }
  { frame with context := { frame.context with regs, eip := frame.context.eip + syscallLength } }

/-- Executes a system call; its result is there if the same environment goes on at once. -/
def syscall (machine : Machine) (call : Syscall) (words : Arguments) :
    Except Trapped Word × Machine :=
  -- The result is whatever the kernel left in the result register.
  match machine.cpu with
  | .running env frame =>
    let entered := { machine with cpu := .running env (callFrame frame call words) }
    let machine := entered.raise TrapVector.systemCall 0 0
    match machine.cpu with
    | .running next frame =>
      if next = env then (.ok frame.context.regs.eax, machine) else (.error .descheduled, machine)
    | _ => (.error .descheduled, machine)
  | _ => (.error .descheduled, machine)

/-- The registers that the running environment controls; zeros while none runs. -/
def context (machine : Machine) : UserContext :=
  -- Vector and error code belong to the kernel's side of a frame.
  match machine.cpu with
  | .running _ frame => frame.context
  | _ => {}

/-- Replaces the registers that the running environment controls. -/
def setContext (machine : Machine) (context : UserContext) : Machine :=
  -- Without an environment that runs there are no registers to set.
  match machine.cpu with
  | .running env frame => { machine with cpu := .running env { frame with context } }
  | _ => machine

/-- Raw page-table entry of a page of the space in use, zero if the page is not mapped. -/
def pageEntry (machine : Machine) (page : Word) : Word :=
  -- A raw entry always has its present bit, so zero is free to mean none.
  let memory := machine.kernel.memory
  match memory.active.bind fun space => memory.entryAt? space (page * pageSize) with
  | some entry => entry.raw
  | none => 0

/-- Raw page-directory entry of the space in use, zero if there is no such table. -/
def tableEntry (machine : Machine) (index : Word) : Word :=
  -- Whether a table is there shows, but its own flags are always the same.
  let memory := machine.kernel.memory
  match memory.active.bind fun space => memory.tableFrame? space index with
  | some frame => frameAddress frame ||| PageFlags.readWrite.bits
  | none => 0

/-- A machine is a processor on which user programs run: every operation is its own. -/
instance : Cpu Machine where
  syscall := syscall
  access
    | machine, .load va length => machine.load va length
    | machine, .store va data =>
      let (result, machine) := machine.store va data
      (result.map fun () => [], machine)
  context := context
  setContext := setContext
  envInfo machine position := machine.kernel.envInfo position
  pageEntry := pageEntry
  tableEntry := tableEntry

end Machine

end Exokernel
