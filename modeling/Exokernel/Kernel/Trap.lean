import Exokernel.Abi.FaultRecord
import Exokernel.Kernel.Calls

/-! The single entry into the kernel: exceptions, interrupts and system calls. -/

namespace Exokernel

/-- What the kernel does with a vector. -/
inductive TrapKind where
  /-- A refused memory access. -/
  | pageFault
  /-- A breakpoint or a single step. -/
  | breakpoint
  /-- A system call. -/
  | systemCall
  /-- The timer interrupt. -/
  | timer
  /-- An interrupt without a cause. -/
  | spurious
  /-- Anything else. -/
  | unexpected
  deriving DecidableEq

/-- The kind of a vector. -/
def TrapKind.ofVector (vector : Word) : TrapKind :=
  if vector = TrapVector.pageFault then .pageFault
  else if vector = TrapVector.breakpoint ∨ vector = TrapVector.debug then .breakpoint
  else if vector = TrapVector.systemCall then .systemCall
  -- Of the interrupt lines only two have a meaning, and the rest is unexpected.
  else if vector = TrapVector.irqBase + TrapVector.timerLine then .timer
  else if vector = TrapVector.irqBase + TrapVector.spuriousLine then .spurious
  else .unexpected

/-- The system call arguments in a register file. -/
def Arguments.ofRegisters (regs : Registers) : Arguments :=
  { first := regs.edx, second := regs.ecx, third := regs.ebx
    fourth := regs.edi, fifth := regs.esi }

/--
Where the record of a fault goes.

A fault that a handler itself raises puts its record below the stack in use and leaves one word
free, in which the handler's return address is placed later.
-/
def recordAddress (esp : Address) : Address :=
  -- The first case is that of a handler, whose stack this is.
  if exceptionStackTop - pageSize ≤ esp ∧ esp < exceptionStackTop then
    esp - (4 + FaultRecord.size)
  else exceptionStackTop - FaultRecord.size

/-- The record of a fault. -/
def FaultRecord.ofFrame (frame : TrapFrame) (address : Address) : FaultRecord :=
  { address, code := frame.code, context := frame.context }

namespace Kernel

/-- A page fault that an environment can handle itself. -/
structure FaultDelivery where
  /-- Space in which the record goes. -/
  space : SpaceHandle
  /-- Where the environment goes on. -/
  entry : Address
  /-- Where the record goes. -/
  recordAt : Address

/--
How an environment gets to handle a fault: it has registered an entry point on a page it can
read, and the record fits on memory that it can write.
-/
def planFault (kernel : Kernel) (slot : Slot) (frame : TrapFrame) : Option FaultDelivery :=
  let env := kernel.envAt slot
  match env.space, env.faultEntry with
  | some space, some entry =>
    let recordAt := recordAddress frame.context.esp
    -- One word of the entry point's page would do, but whole pages are checked.
    let entryCheck := kernel.memory.userCheck space (pageBase entry) pageSize .present
    let recordCheck :=
      kernel.memory.userCheck space recordAt FaultRecord.size (.present ||| .writable)
    match entryCheck, recordCheck with
    | .ok (), .ok () => some { space, entry, recordAt }
    | _, _ => none
  | _, _ => none

/-- The environment as it goes on in its fault handler. -/
def FaultDelivery.enter (delivery : FaultDelivery) (env : Env) : Env :=
  let context := { env.frame.context with esp := delivery.recordAt, eip := delivery.entry }
  { env with frame := { env.frame with context } }

/-- Sends a page fault of the current environment to its handler, or destroys it. -/
def handleFault (kernel : Kernel) (slot : Slot) (frame : TrapFrame) (address : Address) :
    Control Unit × Kernel :=
  -- Only the stack and instruction pointers differ when the environment goes on.
  match kernel.planFault slot frame with
  | none => kernel.destroyEnv slot
  | some delivery =>
    let bytes := (FaultRecord.ofFrame frame address).encode
    match kernel.memory.copyOut delivery.space delivery.recordAt bytes with
    | (.error _, memory) => { kernel with memory }.destroyEnv slot
    | (.ok (), memory) =>
      let kernel := { kernel with memory }.modifyEnv slot delivery.enter
      let (decision, kernel) := kernel.run slot
      (.leave decision, kernel)

/-- Carries out the system call of a frame, with the result in the saved register. -/
def handleCall (kernel : Kernel) (frame : TrapFrame) : Control Unit × Kernel :=
  -- A caller that gives the processor away has its register set by whoever wakes it.
  let regs := frame.context.regs
  match kernel.syscall regs.eax (.ofRegisters regs) with
  | (.leave decision, kernel) => (.leave decision, kernel)
  | (.stay value, kernel) => (.stay (), kernel.withResult value)

/-- Handles a trap from an environment, or from the kernel itself if no slot is given. -/
def handleTrap (kernel : Kernel) (origin : Option Slot) (frame : TrapFrame) (address : Address) :
    Control Unit × Kernel :=
  -- Only a trap with an origin can be held against somebody.
  match TrapKind.ofVector frame.vector, origin with
  | .pageFault, some slot => kernel.handleFault slot frame address
  | .pageFault, none =>
    let (decision, kernel) := kernel.halt (.panic (.pageFault address frame.context.eip))
    (.leave decision, kernel)
  | .breakpoint, _ => (.stay (), kernel.enterMonitor (.breakpoint kernel.currentId frame))
  | .systemCall, some _ => kernel.handleCall frame
  | .timer, _ =>
    let (decision, kernel) := { kernel with clock := kernel.clock.tick }.reschedule
    (.leave decision, kernel)
  | .spurious, _ => (.stay (), kernel)
  | .unexpected, some slot => kernel.destroyEnv slot
  | .systemCall, none | .unexpected, none =>
    let (decision, kernel) := kernel.halt (.panic (.unhandledTrap frame.vector))
    (.leave decision, kernel)

/-- Goes on with the current environment if it can run, and with the next one otherwise. -/
def goOn (kernel : Kernel) : Dispatch × Kernel :=
  -- The call that was just handled may have blocked its caller.
  match kernel.current with
  | some slot => if (kernel.envAt slot).isRunnable then kernel.run slot else kernel.reschedule
  | none => kernel.reschedule

/-- Ends a kernel entry. -/
def conclude (outcome : Control Unit × Kernel) : Dispatch × Kernel :=
  -- Who still has the processor goes on with it, if it is able to.
  match outcome with
  | (.leave decision, kernel) => (decision, kernel)
  | (.stay (), kernel) => kernel.goOn

/--
Enters the kernel with a register file; `address` is the refused address of a page fault.

A user-mode frame is saved in the current environment before anything else happens.
-/
def trap (kernel : Kernel) (frame : TrapFrame) (address : Address) : Dispatch × Kernel :=
  if frame.fromUser then
    match kernel.current with
    | none => kernel.halt (.panic (.noCurrentEnv frame.vector))
    | some slot =>
      -- From here on the registers are found in the table.
      let kernel := kernel.modifyEnv slot ({ · with frame })
      conclude (kernel.handleTrap (some slot) frame address)
  else conclude (kernel.handleTrap none frame address)

end Kernel

end Exokernel
