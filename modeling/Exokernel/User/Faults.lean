import Exokernel.User.Calls

/-! Page-fault handlers, and memory accesses that send their faults to them. -/

namespace Exokernel

/-- Where environments go on after a page fault. -/
abbrev faultEntryPoint : Address := textStart

/-- What each handler does with a fault. -/
abbrev Handlers (η : Type) := η → FaultRecord → Program η Unit

namespace Program

variable {η : Type}

/-- Registers a handler; the first time this sets up the exception stack and the entry point. -/
def registerHandler (handler : η) : Program η Unit := do
  -- A handler that replaces another one finds the stack mapped.
  if (← ask .handler).isNone then
    allocPage .self (exceptionStackTop - pageSize) .readWrite
    setFaultEntry .self faultEntryPoint
  ask (.setHandler (some handler))

/-- Ends the calling environment; the failure is for whatever is left of it. -/
def exit (failure : UserError) : Program η Unit := do
  -- Destroying oneself normally does not come back, and a failure of it changes nothing.
  tryCatch (destroyEnv .self) fun _ => return ()
  throw failure

/-- Gives a fault to the registered handler; a failure ends the environment. -/
def dispatchFault (handlers : Handlers η) (fault : FaultRecord) : Program η Unit := do
  -- Without a handler the fault cannot be dealt with.
  match ← ask .handler with
  | none => exit (.noHandler fault.address)
  | some handler => tryCatch (handlers handler fault) exit

/--
What runs at the fault entry point, with the stack pointer on the fault record.

The trap-time instruction pointer goes to the word below the trap-time stack, and the environment
returns through that word, so that it goes on with exactly the registers it had.
-/
def serviceFault (handlers : Handlers η) : Program η Unit := do
  let stack := (← ask .context).esp
  let fault := FaultRecord.decode (← load stack FaultRecord.length)
  dispatchFault handlers fault
  let returnSlot := fault.context.esp - 4
  store returnSlot (wordBytes fault.context.eip)
  let resumed := { fault.context with esp := returnSlot }
  ask (.setContext resumed)
  -- The last step is the return instruction, which pops the word just stored.
  let target := wordAt (← load returnSlot 4) 0
  ask (.setContext { resumed with eip := target, esp := returnSlot + 4 })

end Program

/-- What the user library keeps for one environment; a forked child starts with a copy. -/
structure LibraryState (η : Type) where
  /-- The registered page-fault handler. -/
  handler : Option η := none
  deriving DecidableEq

/-- An environment's library state together with the processor it runs on. -/
structure UserState (η σ : Type) where
  /-- What the library keeps. -/
  library : LibraryState η
  /-- The processor. -/
  cpu : σ

section Run

variable {η σ : Type} [Cpu σ]

/-- The outcome of a memory access, if the attempts allowed were enough. -/
abbrev AccessOutcome (η σ : Type) :=
  Option (Except UserError (List UInt8) × UserState η σ)

/-- Answers a request, with memory accesses carried out by `access`. -/
def Request.reply (access : Access → UserState η σ → AccessOutcome η σ) :
    (request : Request η) → UserState η σ → Option (request.Answer × UserState η σ)
  | .syscall call words, state =>
    let (result, cpu) := Cpu.syscall state.cpu call words
    some (result, { state with cpu })
  -- Accesses of the program are served, and raw ones are not.
  | .access use, state => access use state
  | .rawAccess use, state =>
    let (result, cpu) := Cpu.access state.cpu use
    some (result, { state with cpu })
  | .context, state => some (Cpu.context state.cpu, state)
  | .setContext registers, state =>
    some ((), { state with cpu := Cpu.setContext state.cpu registers })
  | .envInfo position, state => some (Cpu.envInfo state.cpu position, state)
  | .pageEntry page, state => some (Cpu.pageEntry state.cpu page, state)
  | .tableEntry index, state => some (Cpu.tableEntry state.cpu index, state)
  | .handler, state => some (state.library.handler, state)
  | .setHandler chosen, state => some ((), { state with library := { handler := chosen } })

/--
Uses memory, with each page fault sent to the registered handler and the access tried again.

Handlers may fault in turn. `attempts` bounds the tries at every depth; with too few of them there
is no outcome.
-/
def serveAccess (handlers : Handlers η) :
    Nat → Access → UserState η σ → AccessOutcome η σ
  | 0, _, _ => none
  | attempts + 1, use, state =>
    match Cpu.access state.cpu use with
    | (.ok bytes, cpu) => some (.ok bytes, { state with cpu })
    | (.error .descheduled, cpu) => some (.error .descheduled, { state with cpu })
    | (.error .upcall, cpu) =>
      -- Accesses of the handler have one try less than the one that faulted.
      let reply := Request.reply fun use state => serveAccess handlers attempts use state
      match (Program.serviceFault handlers).run.run reply { state with cpu } with
      | none => none
      | some (.error failure, state) => some (.error failure, state)
      | some (.ok (), state) => serveAccess handlers attempts use state

/-- Runs a program, with at most `attempts` tries for each memory access. -/
def Program.execute {α : Type} (handlers : Handlers η) (attempts : Nat) (program : Program η α)
    (state : UserState η σ) : Option (Except UserError α × UserState η σ) :=
  program.run.run (Request.reply (serveAccess handlers attempts)) state

end Run

end Exokernel
