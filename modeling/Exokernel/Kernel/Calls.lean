import Exokernel.Kernel.Lifecycle
import Exokernel.Kernel.Messages

/-! The system calls: each answers its caller with a word or gives the processor away. -/

namespace Exokernel.Kernel

/-- The kernel with another value in the current environment's saved result register. -/
def withResult (kernel : Kernel) (value : Word) : Kernel :=
  -- Without an owner of the processor there is no register to set.
  match kernel.current with
  | some slot => kernel.modifyEnv slot (·.withResult value)
  | none => kernel

/-- The current environment and its address space. -/
def callerSpace (kernel : Kernel) : Except SysError (Slot × SpaceHandle) := do
  -- Without an owner there is no caller, and the call is refused.
  let slot ← kernel.owner
  let space ← kernel.spaceOf slot
  return (slot, space)

/-- The outcome of destroying an environment, for a caller that gets a word if it goes on. -/
def answerDestroy (outcome : Control Unit × Kernel) (value : Word) : Control Word × Kernel :=
  -- Nobody is there to be answered once the processor is given away.
  match outcome with
  | (.leave decision, kernel) => (.leave decision, kernel)
  | (.stay (), kernel) => (.stay value, kernel)

/-- Writes user memory to the console; a caller that names memory it may not read is destroyed. -/
def writeConsole (kernel : Kernel) (va length : Word) : Control Word × Kernel :=
  match kernel.callerSpace with
  | .error error => (.stay error.toWord, kernel)
  | .ok (slot, space) =>
    match kernel.memory.userCheck space va length (.present ||| .user) with
    | .error _ => answerDestroy (kernel.destroyEnv slot) SysError.fault.toWord
    | .ok () =>
      -- The check leaves out the last page of all addresses, where reading still can fail.
      match kernel.memory.copyIn space va length.toNat with
      | .error _ => (.stay SysError.fault.toWord, kernel)
      | .ok bytes => (.stay 0, { kernel with console := kernel.console.write bytes })

/-- Takes one byte of console input; zero if none waits. -/
def readConsole (kernel : Kernel) : Word × Kernel :=
  -- A typed zero byte is taken too, and looks the same to the caller.
  let (byte, console) := kernel.console.read
  ((byte.map UInt8.toUInt32).getD 0, { kernel with console })

/-- Destroys the caller or one of its children. -/
def destroyCall (kernel : Kernel) (target : EnvId) : Control Word × Kernel :=
  match kernel.findOwned target with
  | .error error => (.stay error.toWord, kernel)
  -- A caller that destroys itself gives up the processor.
  | .ok slot => answerDestroy (kernel.destroyEnv slot) 0

/-- Gives up the processor; the caller later goes on with a zero result. -/
def yield (kernel : Kernel) : Dispatch × Kernel :=
  (kernel.withResult 0).reschedule

/-- Creates a blocked child with the caller's registers and an empty address space. -/
def fork (kernel : Kernel) : Except SysError Word × Kernel :=
  -- The child sees a zero where the caller sees the child's id.
  match kernel.owner with
  | .error error => (.error error, kernel)
  | .ok slot =>
    let parent := kernel.envAt slot
    match kernel.allocEnv parent.id with
    | (.error error, kernel) => (.error error, kernel)
    | (.ok (child, _), kernel) =>
      let kernel := kernel.modifyEnv child (·.asChildOf parent)
      (.ok (kernel.envAt child).id.raw, kernel)

/-- The states that one environment may give another. -/
def settableStatus (word : Word) : Except SysError Status :=
  -- Creation and destruction have calls of their own.
  match Status.decode word with
  | .ok .runnable => .ok .runnable
  | .ok .notRunnable => .ok .notRunnable
  | _ => .error .invalid

/-- Makes the caller or one of its children runnable or not. -/
def setStatus (kernel : Kernel) (target : EnvId) (word : Word) : Except SysError Unit × Kernel :=
  -- The status is judged before the environment.
  match settableStatus word, kernel.findOwned target with
  | .ok status, .ok slot => (.ok (), kernel.modifyEnv slot ({ · with status }))
  | .error error, _ | _, .error error => (.error error, kernel)

/-- Registers the page-fault entry point of the caller or one of its children; zero removes it. -/
def setFaultEntry (kernel : Kernel) (target : EnvId) (entry : Address) :
    Except SysError Unit × Kernel :=
  match kernel.findOwned target with
  | .error error => (.error error, kernel)
  | .ok slot =>
    -- Address zero stands for no entry point.
    let faultEntry := if entry = 0 then none else some entry
    (.ok (), kernel.modifyEnv slot ({ · with faultEntry }))

/-- A call's outcome as a word for its caller. -/
def answer (outcome : Except SysError Word × Kernel) : Control Word × Kernel :=
  (.stay (SysError.encodeResult outcome.1), outcome.2)

/-- The outcome of a call that has nothing to say but that it succeeded. -/
def answerUnit (outcome : Except SysError Unit × Kernel) : Control Word × Kernel :=
  answer (outcome.1.map fun () => 0, outcome.2)

/-- Carries out a system call of the current environment. -/
def perform (kernel : Kernel) (call : Syscall) (words : Arguments) : Control Word × Kernel :=
  -- Each call takes as many of the words as it has arguments, in order.
  match call with
  | .writeConsole => kernel.writeConsole words.first words.second
  | .readConsole =>
    let (byte, kernel) := kernel.readConsole
    (.stay byte, kernel)
  | .currentEnv => answer (kernel.owner.map fun slot => (kernel.envAt slot).id.raw, kernel)
  | .destroyEnv => kernel.destroyCall ⟨words.first⟩
  | .yield =>
    let (decision, kernel) := kernel.yield
    (.leave decision, kernel)
  | .fork => answer kernel.fork
  | .setStatus => answerUnit (kernel.setStatus ⟨words.first⟩ words.second)
  | .allocPage => answerUnit (kernel.allocPage (.ofArguments words))
  | .mapPage => answerUnit (kernel.mapPage (.ofArguments words))
  | .unmapPage => answerUnit (kernel.unmapPage (.ofArguments words))
  | .setFaultEntry => answerUnit (kernel.setFaultEntry ⟨words.first⟩ words.second)
  | .receive => answerUnit (kernel.receive words.first)
  | .trySend => answer (kernel.trySend (.ofArguments words))
  | .time => (.stay kernel.clock.milliseconds, kernel)

/-- Carries out the system call with a number; an unknown number is an invalid argument. -/
def syscall (kernel : Kernel) (number : Word) (words : Arguments) : Control Word × Kernel :=
  -- Words are arguments only once the call is known.
  match Syscall.decode number with
  | .ok call => kernel.perform call words
  | .error error => (.stay error.toWord, kernel)

end Exokernel.Kernel
