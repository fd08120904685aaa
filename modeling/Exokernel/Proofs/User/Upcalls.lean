import Exokernel.Proofs.Kernel.FaultDelivery
import Exokernel.Proofs.User.CopyOnWrite

/-! A fault on its way to the handler, and the way back through the word below the stack. -/

namespace Exokernel

namespace Machine

variable {machine next : Machine} {write : Bool} {va : Address} {slot : Slot} {space : SpaceHandle}

/-- Whether an address is refused depends on the mappings of the space in use. -/
theorem refusal?_congr (active : next.kernel.memory.active = machine.kernel.memory.active)
    (entries : ∀ handle, next.kernel.memory.entryAt? handle va =
      machine.kernel.memory.entryAt? handle va)
    (granted : machine.refusal? write va = none) : next.refusal? write va = none := by
  -- What is not refused has an entry that allows it, and the entry is the same.
  rw [refusal?_eq_none] at granted ⊢
  simpa only [active, entries] using granted

/-- What user code is permitted in any way, it may read. -/
theorem Runs.readable (runs : machine.Runs slot space) {flags : PageFlags}
    (permitted : machine.kernel.memory.Permits space flags va) :
    machine.refusal? false va = none := by
  -- Any permission for user code includes reading.
  obtain ⟨below, entry, found, allowed⟩ := permitted
  exact refusal?_eq_none.mpr
    ⟨space, entry, runs.active, below, found, (PageFlags.contains_or_iff.mp allowed).2⟩

/-- What has been stored in place can be read back. -/
theorem Runs.readable_of_stored (runs : machine.Runs slot space) {data bytes : List UInt8}
    (stored : Cpu.access machine (.store va data) = (.ok bytes, next)) :
    ∀ offset < data.length, next.refusal? false (va + UInt32.ofNat offset) = none := by
  -- Storing changes no entry, and what may be written may be read.
  intro offset inside
  obtain ⟨written, again, -, granted⟩ := runs.store_ok stored
  have entries := machine.kernel.memory.entryAt?_copyOut space va data
  rw [written] at entries
  exact refusal?_congr (again.active.trans runs.active.symm) (fun handle => entries handle _)
    (refusal?_of_write (granted offset inside))

end Machine

namespace Program

variable {η : Type} {handlers : Handlers η} {attempts : Nat}
  {before middle after : UserState η Machine} {slot : Slot} {space : SpaceHandle}
  {record : FaultRecord}

/-- A page fault of an environment has been delivered to its handler. -/
structure Faulted (before after : UserState η Machine) (slot : Slot) (space : SpaceHandle)
    (record : FaultRecord) : Prop where
  /-- The record is of the registers at the fault. -/
  context_eq : record.context = before.cpu.context
  /-- The environment may write the record. -/
  checked : before.cpu.kernel.memory.userCheck space (recordAddress before.cpu.context.esp)
    FaultRecord.size (.present ||| .writable) = .ok ()
  /-- The record is written. -/
  recorded : before.cpu.kernel.memory.copyOut space (recordAddress before.cpu.context.esp)
    record.encode = (.ok (), after.cpu.kernel.memory)
  /-- The environment runs. -/
  runs : after.cpu.Runs slot space
  /-- Its stack pointer is on the record. -/
  outline_eq : ∀ other, after.cpu.outline other =
    if other = slot then
      { before.cpu.outline slot with stack := recordAddress before.cpu.context.esp }
    else before.cpu.outline other
  /-- The library is the same. -/
  library_eq : after.library = before.library

/-- A fault after which the environment still runs is with its handler. -/
theorem Faulted.of_upcall (runs : before.cpu.Runs slot space) {use : Access} {machine : Machine}
    (trapped : Cpu.access before.cpu use = (.error .upcall, machine)) :
    ∃ record : FaultRecord, use.Uses record.address ∧
      Faulted before { before with cpu := machine } slot space record := by
  -- The kernel has written the record, and set the handler's registers.
  obtain ⟨address, used, code, rfl, again⟩ := Machine.access_upcall runs.current trapped
  obtain ⟨memory, checked, recorded, next, rfl, outline⟩ := runs.delivered code address again
  exact ⟨_, used, rfl, checked, recorded, next, outline, rfl⟩

/-- The handler begins with its stack pointer on the record. -/
theorem Faulted.stack_eq (faulted : Faulted before after slot space record) :
    after.cpu.context.esp = recordAddress before.cpu.context.esp := by
  -- The stack pointer shows in the outline.
  have stack : (after.cpu.outline slot).stack = recordAddress before.cpu.context.esp := by
    rw [faulted.outline_eq slot]
    simp only [if_true]
  rwa [faulted.runs.outline_eq] at stack

/-- A handler reads the record of its fault as it was written. -/
theorem Faulted.loads_record (runs : before.cpu.Runs slot space)
    (faulted : Faulted before middle slot space record) :
    Cpu.access middle.cpu (.load (recordAddress before.cpu.context.esp) FaultRecord.length) =
      (.ok record.encode, middle.cpu) := by
  -- The whole record is on pages that the environment may write, so that reading does not fault.
  have permitted := Memory.userCheck_record_iff.mp faulted.checked
  have entries := before.cpu.kernel.memory.entryAt?_copyOut space
    (recordAddress before.cpu.context.esp) record.encode
  rw [faulted.recorded] at entries
  have length := record.length_encode
  have read := Memory.read_copyOut runs.backed (by rw [length]; decide) faulted.recorded
    fun offset inside => (permitted offset (length ▸ inside)).isSome
  rw [length] at read
  rw [← read]
  refine Machine.load_of_granted faulted.runs.current faulted.runs.active fun offset inside => ?_
  obtain ⟨below, entry, found, allowed⟩ := permitted offset inside
  exact faulted.runs.readable ⟨below, entry, (entries _ _).trans found, allowed⟩

/-- The way back from a handler, through the return address below the stack. -/
def returnTo (context : UserContext) : Program η Unit := do
  -- The address of the interrupted instruction is stored, loaded again and jumped to.
  store (context.esp - 4) (wordBytes context.eip)
  ask (.setContext { context with esp := context.esp - 4 })
  let target := wordAt (← load (context.esp - 4) 4) 0
  ask (.setContext { context with eip := target, esp := context.esp - 4 + 4 })

/-- Serving a fault is to give its record to the handler, and to return to where it was. -/
theorem Faulted.run_serviceFault (runs : before.cpu.Runs slot space)
    (faulted : Faulted before middle slot space record) :
    (serviceFault handlers).run.run (reply handlers (attempts + 1)) middle =
      (dispatchFault handlers record >>= fun _ => returnTo record.context).run.run
        (reply handlers (attempts + 1)) middle := by
  have parts : serviceFault handlers = ask .context >>= fun context =>
      load context.esp FaultRecord.length >>= fun bytes =>
        dispatchFault handlers (.decode bytes) >>= fun _ =>
          returnTo (FaultRecord.decode bytes).context := rfl
  -- The stack pointer is on the record, which is there to be read.
  have asked : (ask .context : Program η _).run.run (reply handlers (attempts + 1)) middle =
      some (.ok middle.cpu.context, middle) := rfl
  have loaded : (load (recordAddress before.cpu.context.esp) FaultRecord.length).run.run
      (reply handlers (attempts + 1)) middle = some (.ok record.encode, middle) := by
    refine ends_load.mpr ?_
    simp only [Request.reply, serveAccess, faulted.loads_record runs]
  rw [parts, ExceptT.run_bind, UserCode.run_bind, asked]
  simp only [Option.bind_some]
  rw [faulted.stack_eq, ExceptT.run_bind, UserCode.run_bind, loaded]
  simp only [Option.bind_some, FaultRecord.decode_encode]

/-- A registered handler is given the fault, and its failure ends the environment. -/
theorem run_dispatchFault {handler : η} (handled : before.library.handler = some handler) :
    (dispatchFault handlers record).run.run (reply handlers attempts) before =
      (tryCatch (handlers handler record) exit).run.run (reply handlers attempts) before := by
  -- The library answers with its handler, and nothing has happened yet.
  have asked : (ask .handler : Program η _).run.run (reply handlers attempts) before =
      some (.ok (some handler), before) := by
    rw [← handled]
    rfl
  rw [dispatchFault, ExceptT.run_bind, UserCode.run_bind, asked]
  rfl

/-- An access is made again once its fault has been served; a failure to serve it ends it. -/
def tryAgain (handlers : Handlers η) (attempts : Nat) (use : Access) :
    Except UserError Unit × UserState η Machine → AccessOutcome η Machine
  -- The fault's own state is where the next try begins.
  | (.error failure, state) => some (.error failure, state)
  | (.ok (), state) => serveAccess handlers attempts use state

/-- An access that faults goes on with the registered handler, and with the return from it. -/
theorem serveAccess_of_upcall (handlers : Handlers η) (attempts : Nat)
    (runs : before.cpu.Runs slot space) {use : Access} {handler : η} {machine : Machine}
    (handled : before.library.handler = some handler)
    (trapped : Cpu.access before.cpu use = (.error .upcall, machine)) :
    ∃ record : FaultRecord, use.Uses record.address ∧
      serveAccess handlers (attempts + 2) use before =
        ((tryCatch (handlers handler record) exit >>= fun _ =>
            returnTo before.cpu.context).run.run (reply handlers (attempts + 1))
              { before with cpu := machine }).bind (tryAgain handlers (attempts + 1) use) := by
  obtain ⟨record, used, faulted⟩ := Faulted.of_upcall runs trapped
  refine ⟨record, used, ?_⟩
  -- Delivering the fault has left the library alone, so that the handler is still registered.
  have given : ({ before with cpu := machine } : UserState η Machine).library.handler =
    some handler := handled
  have served : (serviceFault handlers).run.run (reply handlers (attempts + 1))
      { before with cpu := machine } = _ := faulted.run_serviceFault runs
  rw [ExceptT.run_bind, UserCode.run_bind, run_dispatchFault given, faulted.context_eq] at served
  rw [serveAccess, trapped, ExceptT.run_bind, UserCode.run_bind]
  dsimp only
  rw [served]
  -- Both sides look in the same way at how serving the fault has ended.
  cases Option.bind ((tryCatch (handlers handler record) exit).run.run
    (reply handlers (attempts + 1)) { before with cpu := machine }) _ with
  | none => rfl
  | some outcome =>
    obtain ⟨result, state⟩ := outcome
    cases result <;> rfl

/-- A fault that has been served was dealt with by its handler, which then returned. -/
theorem Faulted.ends_serviceFault (runs : before.cpu.Runs slot space)
    (faulted : Faulted before middle slot space record)
    (ends : Ends (reply handlers attempts) (serviceFault handlers) middle (.ok ()) after) :
    ∃ handled,
      Ends (reply handlers attempts) (dispatchFault handlers record) middle (.ok ()) handled ∧
      Ends (reply handlers attempts) (returnTo record.context) handled (.ok ()) after := by
  cases attempts with
  | zero =>
    -- Reading the record already takes an attempt.
    obtain ⟨context, asked, -, reads⟩ := ends_bind.mp ends
    obtain ⟨bytes, loaded, reading, -⟩ := ends_bind.mp reads
    have served := ends_load.mp reading
    simp [Request.reply, serveAccess] at served
  | succ attempts =>
    rw [Ends, faulted.run_serviceFault runs] at ends
    obtain ⟨⟨⟩, handled, dispatched, returned⟩ := ends_bind.mp ends
    exact ⟨handled, dispatched, returned⟩

/-- The running environment has been given other registers, and nothing else has changed. -/
structure Resets (before after : UserState η Machine) (slot : Slot) (space : SpaceHandle)
    (context : UserContext) : Prop where
  /-- The environment runs. -/
  runs : after.cpu.Runs slot space
  /-- Its registers. -/
  context_eq : after.cpu.context = context
  /-- The kernel has not noticed. -/
  kernel_eq : after.cpu.kernel = before.cpu.kernel
  /-- The library is the same. -/
  library_eq : after.library = before.library
  /-- Of all outlines, only one stack pointer has moved. -/
  outline_eq : ∀ other, after.cpu.outline other =
    if other = slot then { before.cpu.outline slot with stack := context.esp }
    else before.cpu.outline other

/-- Registers set twice are as they were set last. -/
theorem Resets.trans {first second : UserContext} (one : Resets before middle slot space first)
    (other : Resets middle after slot space second) : Resets before after slot space second where
  runs := other.runs
  context_eq := other.context_eq
  kernel_eq := other.kernel_eq.trans one.kernel_eq
  library_eq := other.library_eq.trans one.library_eq
  -- Outlines follow the registers, and the second change is the one that counts.
  outline_eq place := by
    rw [other.outline_eq, one.outline_eq, one.outline_eq, if_pos rfl]
    split <;> rfl

/-- A request for other registers sets them. -/
theorem ends_setContext (runs : before.cpu.Runs slot space) {context : UserContext} {done : Unit}
    (ends : Ends (reply handlers attempts) (ask (.setContext context)) before (.ok done) after) :
    Resets before after slot space context := by
  -- The request is answered by the processor alone.
  obtain ⟨-, rfl⟩ := ends_asked rfl ends
  obtain ⟨again, kernel, outline⟩ := runs.setContext context
  exact ⟨again, runs.context_setContext context, kernel, rfl, outline⟩

/-- A return through a word that can be read goes on where the word says. -/
theorem ends_return {context : UserContext} {va : Address} (runs : before.cpu.Runs slot space)
    (granted : ∀ offset < 4, before.cpu.refusal? false (va + UInt32.ofNat offset) = none)
    (ends : Ends (reply handlers attempts) (do
      ask (.setContext { context with esp := va })
      let target := wordAt (← load va 4) 0
      ask (.setContext { context with eip := target, esp := va + 4 })) before (.ok ()) after) :
    Resets before after slot space { context with
      eip := wordAt ((addressRange va 4).map (before.cpu.kernel.memory.byteAt space)) 0
      esp := va + 4 } := by
  obtain ⟨⟨⟩, moved, moving, reloads⟩ := ends_bind.mp ends
  have first := ends_setContext runs moving
  obtain ⟨word, reloaded, reloading, restores⟩ := ends_bind.mp reloads
  -- What may be accessed depends on the kernel alone, which has not changed.
  obtain ⟨rfl, contents⟩ := ends_load_granted first.runs (fun offset inside =>
    Machine.refusal?_congr (by rw [first.kernel_eq]) (fun _ => by rw [first.kernel_eq])
      (granted offset inside)) reloading
  rw [first.kernel_eq] at contents
  rw [← contents]
  exact first.trans (ends_setContext first.runs restores)

end Program

end Exokernel
