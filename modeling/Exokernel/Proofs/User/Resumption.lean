import Exokernel.Proofs.User.Handlers
import Exokernel.Proofs.User.Upcalls

/-! A fault that was handled leaves no trace in the registers, whatever its handler did. -/

namespace Exokernel

/-- What every answer keeps is kept by a program as a whole. -/
theorem UserCode.run_keeps {η σ α : Type}
    {reply : (request : Request η) → σ → Option (request.Answer × σ)} (Keeps : σ → Prop)
    (answers : ∀ request before answer after, reply request before = some (answer, after) →
      Keeps before → Keeps after)
    {program : UserCode η α} {before after : σ} {value : α}
    (ends : program.run reply before = some (value, after)) (begun : Keeps before) :
    Keeps after := by
  -- Induct on the program: the first request is answered, and the rest goes on from there.
  induction program generalizing before with
  | done result =>
    simp only [run, Option.some.injEq, Prod.mk.injEq] at ends
    exact ends.2 ▸ begun
  | exhausted => simp [run] at ends
  | ask request next ih =>
    simp only [run] at ends
    split at ends
    · rename_i answer middle replied
      exact ih answer ends (answers request before answer middle replied begun)
    · simp at ends

/-- A property of processors that nothing a program may ask of them takes away. -/
structure Cpu.Keeps {σ : Type} [Cpu σ] (Holds : σ → Prop) : Prop where
  /-- System calls keep it, whatever they answer. -/
  syscall : ∀ cpu call words, Holds cpu → Holds (Cpu.syscall cpu call words).2
  /-- Accesses keep it, whether they are made or fault. -/
  access : ∀ cpu use, Holds cpu → Holds (Cpu.access cpu use).2
  /-- New registers keep it. -/
  setContext : ∀ cpu context, Holds cpu → Holds (Cpu.setContext cpu context)

namespace Cpu.Keeps

variable {η σ : Type} [Cpu σ] {Holds : σ → Prop} {handlers : Handlers η} {attempts : Nat}
  {access : Access → UserState η σ → AccessOutcome η σ} {use : Access}
  {before after : UserState η σ}

/-- However a request is answered, the property is kept. -/
theorem reply (keeps : Cpu.Keeps Holds) {request : Request η} {answer : request.Answer}
    (serves : ∀ use before result after, access use before = some (result, after) →
      Holds before.cpu → Holds after.cpu)
    (replied : Request.reply access request before = some (answer, after))
    (holds : Holds before.cpu) : Holds after.cpu := by
  -- System calls, accesses and new registers concern the processor; the rest only looks at it.
  cases request with
  | access use => exact serves use before answer after replied holds
  | syscall call words =>
    obtain ⟨-, rfl⟩ := Prod.mk.inj (Option.some.inj replied)
    exact keeps.syscall _ call words holds
  | rawAccess use =>
    obtain ⟨-, rfl⟩ := Prod.mk.inj (Option.some.inj replied)
    exact keeps.access _ use holds
  | setContext context =>
    obtain ⟨-, rfl⟩ := Prod.mk.inj (Option.some.inj replied)
    exact keeps.setContext _ context holds
  | _ =>
    obtain ⟨-, rfl⟩ := Prod.mk.inj (Option.some.inj replied)
    exact holds

/-- Whatever a program does, the property is kept. -/
theorem run (keeps : Cpu.Keeps Holds) {α : Type} {program : UserCode η α} {value : α}
    (serves : ∀ use before result after, access use before = some (result, after) →
      Holds before.cpu → Holds after.cpu)
    (ends : program.run (Request.reply access) before = some (value, after))
    (holds : Holds before.cpu) : Holds after.cpu :=
  UserCode.run_keeps (fun state => Holds state.cpu) (fun _ _ _ _ => keeps.reply serves) ends holds

/-- However an access is served, the property is kept. -/
theorem serveAccess (keeps : Cpu.Keeps Holds) {result : Except UserError (List UInt8)}
    (served : Exokernel.serveAccess handlers attempts use before = some (result, after))
    (holds : Holds before.cpu) : Holds after.cpu := by
  -- Induct on the attempts, which also bound the accesses of whatever serves a fault.
  induction attempts generalizing use before result after with
  | zero => simp [Exokernel.serveAccess] at served
  | succ attempts ih =>
    have tried := keeps.access before.cpu use holds
    simp only [Exokernel.serveAccess] at served
    split at served
    · rename_i bytes machine accessed
      rw [accessed] at tried
      simp only [Option.some.injEq, Prod.mk.injEq] at served
      exact served.2 ▸ tried
    · rename_i machine accessed
      rw [accessed] at tried
      simp only [Option.some.injEq, Prod.mk.injEq] at served
      exact served.2 ▸ tried
    · rename_i machine accessed
      rw [accessed] at tried
      have serves (use : Access) (before : UserState η σ)
          (result : Except UserError (List UInt8)) (after : UserState η σ)
          (served : Exokernel.serveAccess handlers attempts use before = some (result, after)) :=
        ih served
      split at served
      · simp at served
      · rename_i failure state ends
        simp only [Option.some.injEq, Prod.mk.injEq] at served
        exact served.2 ▸ keeps.run serves ends tried
      · rename_i state ends
        exact ih served (keeps.run serves ends tried)

/-- However a program ends, the property is kept. -/
theorem execute (keeps : Cpu.Keeps Holds) {α : Type} {program : Program η α}
    {result : Except UserError α}
    (ends : program.execute handlers attempts before = some (result, after))
    (holds : Holds before.cpu) : Holds after.cpu :=
  keeps.run (fun _ _ _ _ => keeps.serveAccess) ends holds

end Cpu.Keeps

/-- However memory is used, processor and kernel stay coupled. -/
theorem Machine.Coupled.access {machine : Machine} (coupled : machine.Coupled) (use : Access) :
    (Cpu.access machine use).2.Coupled := by
  -- A store has no bytes to give, and is otherwise answered as it is.
  cases use with
  | load va length => exact coupled.load va length
  | store va data => exact coupled.store va data

/-- Whatever a program asks, processor and kernel stay coupled. -/
theorem Machine.keeps_coupled : Cpu.Keeps Machine.Coupled where
  syscall _ call words coupled := coupled.syscall call words
  access _ use coupled := coupled.access use
  setContext _ context coupled := coupled.step (.setContext context)

namespace Program

variable {η : Type} {handlers : Handlers η} {attempts : Nat} {use : Access}
  {before middle after : UserState η Machine} {slot : Slot} {space : SpaceHandle}

/-- However a program ends, processor and kernel stay coupled. -/
theorem Ends.coupled {α : Type} {program : Program η α} {result : Except UserError α}
    (ends : Ends (reply handlers attempts) program before result after)
    (coupled : before.cpu.Coupled) : after.cpu.Coupled :=
  Machine.keeps_coupled.execute ends coupled

/--
An access that succeeds does so in place, after faults each of which has been served.

What the faults do to the state is for `Kept` to say: it holds of the state at the first try, and
serving a fault keeps it.
-/
theorem serveAccess_ok (Kept : UserState η Machine → Prop) {bytes : List UInt8}
    (serves : ∀ attempts before after machine, Kept before →
      Cpu.access before.cpu use = (.error .upcall, machine) →
      Ends (reply handlers attempts) (serviceFault handlers) { before with cpu := machine } (.ok ())
        after → Kept after)
    (served : serveAccess handlers attempts use before = some (.ok bytes, after))
    (kept : Kept before) : ∃ last : UserState η Machine, Kept last ∧
      Cpu.access last.cpu use = (.ok bytes, after.cpu) := by
  -- Induct on the attempts: a try that faults is served, and tried again with fewer of them.
  induction attempts generalizing before with
  | zero => simp [serveAccess] at served
  | succ attempts ih =>
    simp only [serveAccess] at served
    split at served
    · rename_i answer machine accessed
      simp only [Option.some.injEq, Prod.mk.injEq, Except.ok.injEq] at served
      obtain ⟨rfl, rfl⟩ := served
      exact ⟨before, kept, accessed⟩
    · simp at served
    · rename_i machine accessed
      split at served
      · simp at served
      · simp at served
      · rename_i state ends
        exact ih served (serves attempts before state machine kept accessed ends)

/-- Once a fault has been served, the environment goes on with the registers it had. -/
theorem Faulted.context_serviceFault {record : FaultRecord} (runs : before.cpu.Runs slot space)
    (faulted : Faulted before middle slot space record)
    (ends : Ends (reply handlers attempts) (serviceFault handlers) middle (.ok ()) after) :
    after.cpu.context = before.cpu.context := by
  obtain ⟨handled, dispatched, returns⟩ := faulted.ends_serviceFault runs ends
  obtain ⟨⟨⟩, stored, storing, resumes⟩ := ends_bind.mp returns
  obtain ⟨answer, served⟩ := ends_store.mp storing
  -- The handler may have done anything, but the return address is stored in place in the end.
  obtain ⟨last, coupled, accessed⟩ := serveAccess_ok (fun state => state.cpu.Coupled)
    (fun attempts before after machine coupled accessed ends => by
      have tried := coupled.access (.store (record.context.esp - 4) (wordBytes record.context.eip))
      rw [accessed] at tried
      exact ends.coupled tried) served (dispatched.coupled faulted.runs.coupled)
  obtain ⟨id, running⟩ := Machine.current_of_access accessed (by simp)
  obtain ⟨owner, used, storer, -⟩ := coupled.runs_of_running running
  obtain ⟨written, again, -, granted⟩ := storer.store_ok accessed
  have returned := ends_return again (storer.readable_of_stored accessed) resumes
  -- The word that the return goes through is the one that was stored.
  have short : (wordBytes record.context.eip).length ≤ pageLength := by
    show 4 ≤ 4096
    decide
  have word := Memory.read_copyOut storer.backed short written
    (Machine.mapped_of_granted storer.active granted)
  change (addressRange (record.context.esp - 4) 4).map _ = wordBytes record.context.eip at word
  rw [returned.context_eq, word, UInt32.sub_add_cancel, ← faulted.context_eq]
  exact congrArg (fun target => { record.context with eip := target })
    (wordAt_zero record.context.eip [])

end Program

namespace Machine

/--
An access that succeeds leaves all registers as they were, however many faults and runs of
handlers it took, one after the other or one inside the other.

Nothing is assumed of the handlers: what they ask of the kernel and of memory, and which registers
they leave, is up to them.
-/
theorem transparent_after {η : Type} (config : Config) (past : List MachineEvent)
    (library : LibraryState η) (handlers : Handlers η) (use : Access) (attempts : Nat)
    (bytes : List UInt8) (last : UserState η Machine)
    (served : serveAccess handlers attempts use ⟨library, after config past⟩ =
      some (.ok bytes, last)) :
    last.cpu.context = (after config past).context := by
  obtain ⟨middle, ⟨-, kept⟩, accessed⟩ := Program.serveAccess_ok
    (fun state => state.cpu.Coupled ∧ state.cpu.context = (after config past).context)
    (fun attempts before next machine ⟨coupled, kept⟩ accessed ends => by
      -- A try that faults is one of an environment that runs, and goes to its handler.
      have tried := coupled.access use
      rw [accessed] at tried
      obtain ⟨id, running⟩ := current_of_access accessed (by simp)
      obtain ⟨slot, space, runs, -⟩ := coupled.runs_of_running running
      obtain ⟨record, -, faulted⟩ := Program.Faulted.of_upcall runs accessed
      exact ⟨ends.coupled tried, (faulted.context_serviceFault runs ends).trans kept⟩)
    served ⟨coupled_after config past, rfl⟩
  -- The try that succeeds leaves the processor alone.
  rw [← kept]
  simp only [Machine.context, access_ok accessed]

/-- A page is mapped for a store, which then goes on with the registers it had. -/
theorem transparent_mapped : ∃ last : UserState FaultPolicy Machine,
    serveAccess FaultPolicy.handlers 3 (.store scratchStart [1])
        ⟨{ handler := some .demandZero }, after { frames := 16 } entryRegistered⟩ =
      some (.ok [], last) ∧
    last.cpu.context = (after { frames := 16 } entryRegistered).context := by
  -- The facts about this machine come first, since it is an unknown one from then on.
  have resumed := transparent_after { frames := 16 } entryRegistered { handler := some .demandZero }
    FaultPolicy.handlers (.store scratchStart [1]) 3 []
  have coupled := coupled_after { frames := 16 } entryRegistered
  have running : (after { frames := 16 } entryRegistered).current = some ⟨4097⟩ := by
    decide +kernel
  have trapped : (Cpu.access (after { frames := 16 } entryRegistered)
      (.store scratchStart [1])).1 = .error .upcall := by
    decide +kernel
  -- The record of the fault is not decoded here: of the fault the handler wants only the address.
  have mapped : (((tryCatch (Program.allocPage .self scratchStart .readWrite) Program.exit >>=
      fun _ => Program.returnTo (after { frames := 16 } entryRegistered).context).run.run
        (Program.reply FaultPolicy.handlers 2) ⟨{ handler := some .demandZero },
          (Cpu.access (after { frames := 16 } entryRegistered) (.store scratchStart [1])).2⟩).bind
            (Program.tryAgain FaultPolicy.handlers 2 (.store scratchStart [1]))).map
              (fun outcome => outcome.1.toOption) = some (some []) := by
    decide +kernel
  generalize after { frames := 16 } entryRegistered = machine at *
  obtain ⟨slot, space, runs, -⟩ := coupled.runs_of_running running
  have begun : (⟨{ handler := some .demandZero }, machine⟩ :
    UserState FaultPolicy Machine).cpu.Runs slot space := runs
  have faulted : Cpu.access machine (.store scratchStart [1]) =
    (.error .upcall, (Cpu.access machine (.store scratchStart [1])).2) := Prod.ext trapped rfl
  obtain ⟨record, ⟨offset, inside, address⟩, served⟩ :=
    Program.serveAccess_of_upcall FaultPolicy.handlers 1 begun rfl faulted
  obtain rfl : offset = 0 := by simpa using inside
  have maps : FaultPolicy.handlers .demandZero record =
      Program.allocPage .self scratchStart .readWrite := by
    change Program.allocPage .self (pageBase record.address) .readWrite = _
    rw [address]
    rfl
  rw [maps] at served
  obtain ⟨⟨result, last⟩, done, bytes⟩ := Option.map_eq_some_iff.mp
    ((congrArg (Option.map fun outcome => outcome.1.toOption) served).trans mapped)
  obtain rfl : result = .ok [] := by
    cases result with
    | error failure => simp [Except.toOption] at bytes
    | ok given => simpa [Except.toOption] using bytes
  exact ⟨last, done, resumed last done⟩

end Machine

end Exokernel
