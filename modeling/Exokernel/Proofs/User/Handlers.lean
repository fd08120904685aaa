import Exokernel.Proofs.Survivors
import Exokernel.Proofs.User.Programs
import Exokernel.User.Policy

/-! A fault handler that fails is the end of its environment, and of no other. -/

namespace Exokernel

open Program

/-- A request of a handler that uses memory, changes its mappings, or only looks at something. -/
def Request.isModest {η : Type} : Request η → Bool
  -- Of the system calls these are the three about pages.
  | .access _ | .context | .envInfo _ | .pageEntry _ | .tableEntry _ | .handler => true
  | .syscall call _ => call == .allocPage || call == .mapPage || call == .unmapPage
  | .rawAccess _ | .setContext _ | .setHandler _ => false

/-- A request was a memory access, and it failed. -/
def Request.failed {η : Type} : (request : Request η) → request.Answer → Bool
  | .access _, .error _ => true
  | _, _ => false

namespace UserCode

variable {η σ α β : Type} {reply better : (request : Request η) → σ → Option (request.Answer × σ)}

/-- Every request that a program can get to is a modest one. -/
inductive Modest : UserCode η α → Prop where
  | done (value : α) : Modest (done value)
  | exhausted : Modest exhausted
  | ask (request : Request η) (next : request.Answer → UserCode η α)
      (allowed : request.isModest = true) (rest : ∀ answer, Modest (next answer)) :
      Modest (ask request next)

/-- Modest programs make a modest sequence. -/
theorem Modest.bind {program : UserCode η α} {next : α → UserCode η β} (begins : program.Modest)
    (goesOn : ∀ value, (next value).Modest) : (program >>= next).Modest := by
  -- Induct on the first program; the second one takes the place of its end.
  change (program.bind next).Modest
  induction begins with
  | done value => exact goesOn value
  | exhausted => exact .exhausted
  | ask request rest allowed _ ih => exact .ask request _ allowed ih

/-- The program that has no outcome if one of its memory accesses fails. -/
def strict : UserCode η α → UserCode η α
  | done value => done value
  | exhausted => exhausted
  -- Everything else is asked as before.
  | ask request next => ask request fun answer =>
      if request.failed answer then exhausted else (next answer).strict

/-- Whatever is answered is answered in the same way, and perhaps more is. -/
def Extends (reply better : (request : Request η) → σ → Option (request.Answer × σ)) : Prop :=
  ∀ request state outcome, reply request state = some outcome →
    better request state = some outcome

/-- More answers do not change the outcome of a program. -/
theorem run_of_extends (extends_ : Extends reply better) {program : UserCode η α} {state : σ}
    {outcome : α × σ} (ran : program.run reply state = some outcome) :
    program.run better state = some outcome := by
  -- Every request that was answered is answered in the same way.
  induction program generalizing state with
  | done value => exact ran
  | exhausted => simp [run] at ran
  | ask request next ih =>
    simp only [run] at ran ⊢
    cases replied : reply request state with
    | none => simp [replied] at ran
    | some given =>
      rw [replied] at ran
      rw [extends_ request state given replied]
      exact ih given.1 ran

/-- A program that goes on after failed accesses has every outcome that it has without them. -/
theorem run_of_strict (extends_ : Extends reply better) {program : UserCode η α} {state : σ}
    {outcome : α × σ} (ran : program.strict.run reply state = some outcome) :
    program.run better state = some outcome := by
  -- The strict program does the same up to the first access that fails, and ends there.
  induction program generalizing state with
  | done value => exact ran
  | exhausted => simp [strict, run] at ran
  | ask request next ih =>
    simp only [strict, run] at ran ⊢
    cases replied : reply request state with
    | none => simp [replied] at ran
    | some given =>
      rw [replied] at ran
      rw [extends_ request state given replied]
      dsimp only at ran ⊢
      split at ran
      · -- After a failed access there would be no outcome.
        simp [run] at ran
      · exact ih given.1 ran

end UserCode

namespace Program

variable {η α β : Type}

/-- To give a value is modest. -/
theorem modest_pure (value : α) : (pure value : Program η α).run.Modest :=
  .done _

/-- To fail is modest, for a failure is an end like any other. -/
theorem modest_throw (failure : UserError) : (throw failure : Program η α).run.Modest :=
  .done _

/-- Two modest programs, one after the other, are modest. -/
theorem modest_bind {program : Program η α} {next : α → Program η β}
    (begins : program.run.Modest) (goesOn : ∀ value, (next value).run.Modest) :
    (program >>= next).run.Modest := by
  -- The second program is run if the first one gives a value.
  rw [ExceptT.run_bind]
  refine begins.bind fun result => ?_
  cases result with
  | ok value => exact goesOn value
  | error failure => exact .done _

/-- To make a modest request is modest. -/
theorem modest_ask {request : Request η} (allowed : request.isModest = true) :
    (ask request).run.Modest :=
  .ask request _ allowed fun _ => .done _

/-- To load is modest. -/
theorem modest_load (va : Address) (length : Nat) : (load va length : Program η _).run.Modest :=
  .ask (.access (.load va length)) _ rfl fun _ => .done _

/-- To store is modest. -/
theorem modest_store (va : Address) (data : List UInt8) :
    (store va data : Program η Unit).run.Modest :=
  modest_bind (.ask (.access (.store va data)) _ rfl fun _ => .done _) fun _ => modest_pure ()

/-- A command is as modest as its system call. -/
theorem modest_command {call : Syscall} {words : Arguments}
    (allowed : (Request.syscall call words : Request η).isModest = true) :
    (command call words : Program η Unit).run.Modest := by
  -- Whatever the kernel answers, nothing more is asked for.
  refine modest_bind (modest_bind (modest_ask allowed) fun answer => ?_) fun _ => modest_pure ()
  cases answer with
  | error trapped => exact modest_throw _
  | ok word =>
    dsimp only
    split
    · exact modest_throw _
    · exact modest_pure _

/-- To look up a permission is modest. -/
theorem modest_permissionAt (va : Address) : (permissionAt va : Program η _).run.Modest := by
  -- The directory is looked at first, and the page table only if there is one.
  refine modest_bind (modest_ask rfl) fun entry => ?_
  split
  · exact modest_bind (modest_ask rfl) fun _ => modest_pure _
  · exact modest_pure _

/-- The handler that copies pages is modest. -/
theorem modest_copyOnWrite (fault : FaultRecord) :
    (copyOnWrite fault : Program η Unit).run.Modest := by
  have copies : (do
      allocPage .self copyPage .readWrite
      store copyPage (← load (pageBase fault.address) pageLength)
      mapPage .self copyPage .self (pageBase fault.address) .readWrite
      unmapPage .self copyPage : Program η Unit).run.Modest :=
    modest_bind (modest_command rfl) fun _ => modest_bind (modest_load _ _) fun _ =>
      modest_bind (modest_store _ _) fun _ =>
        modest_bind (modest_command rfl) fun _ => modest_command rfl
  unfold copyOnWrite
  dsimp only
  -- A fault that is not the handler's own is thrown before anything is copied.
  split
  on_goal 1 => refine modest_bind (modest_throw _) fun _ => ?_
  all_goals
    refine modest_bind (modest_permissionAt _) fun flags => ?_
    split
    on_goal 2 => refine modest_bind (modest_throw _) fun _ => ?_
    all_goals exact copies

end Program

/-- Every handler of the user library is modest. -/
theorem FaultPolicy.modest_handlers (policy : FaultPolicy) (fault : FaultRecord) :
    (handlers policy fault : Program FaultPolicy Unit).run.Modest := by
  -- One case for each handler; all of them use the library's own calls.
  cases policy with
  | copyOnWrite => exact Program.modest_copyOnWrite fault
  | demandZero => exact Program.modest_command rfl
  | touchNext =>
    change (mapAfterNext fault : Program FaultPolicy Unit).run.Modest
    unfold mapAfterNext
    dsimp only
    split
    · exact Program.modest_bind (Program.modest_store _ _) fun _ => Program.modest_command rfl
    · exact Program.modest_command rfl
  | refuse => exact Program.modest_throw _

/-- Handlers that have no outcome if one of their memory accesses fails. -/
def Handlers.strict {η : Type} (handlers : Handlers η) : Handlers η :=
  fun handler fault => ExceptT.mk (handlers handler fault).run.strict

namespace Program

variable {η σ α β : Type} {reply better : (request : Request η) → σ → Option (request.Answer × σ)}

/-- A program ends whenever another one does, and in the same way. -/
def Refines (reply better : (request : Request η) → σ → Option (request.Answer × σ))
    (first second : Program η α) : Prop :=
  ∀ before result after, Ends reply first before result after →
    Ends better second before result after

namespace Refines

/-- A program refines itself, if more requests are answered. -/
theorem refl (extends_ : UserCode.Extends reply better) (program : Program η α) :
    Refines reply better program program :=
  fun _ _ _ => UserCode.run_of_extends extends_

/-- One refinement after another is a refinement. -/
theorem bind {first second : Program η α} {next rest : α → Program η β}
    (begins : Refines reply better first second)
    (goesOn : ∀ value, Refines reply better (next value) (rest value)) :
    Refines reply better (first >>= next) (second >>= rest) := by
  -- The first program gives a value on both sides, or fails on both.
  intro before result after ends
  rcases ends_bind_iff.mp ends with ⟨value, middle, started, finished⟩ | ⟨failure, failed, stopped⟩
  · exact ends_bind_iff.mpr
      (.inl ⟨value, middle, begins _ _ _ started, goesOn value _ _ _ finished⟩)
  · exact ends_bind_iff.mpr (.inr ⟨failure, failed, begins _ _ _ stopped⟩)

/-- A program that catches failures is refined if what it tries is. -/
theorem tryCatch {first second : Program η α} {rescue : UserError → Program η α}
    (begins : Refines reply better first second)
    (rescues : ∀ failure, Refines reply better (rescue failure) (rescue failure)) :
    Refines reply better (tryCatch first rescue) (tryCatch second rescue) := by
  -- What it tries succeeds on both sides, or fails on both.
  intro before result after ends
  rcases ends_tryCatch_iff.mp ends with ⟨value, same, done⟩ | ⟨failure, middle, failed, rescued⟩
  · exact ends_tryCatch_iff.mpr (.inl ⟨value, same, begins _ _ _ done⟩)
  · exact ends_tryCatch_iff.mpr
      (.inr ⟨failure, middle, begins _ _ _ failed, rescues failure _ _ _ rescued⟩)

variable {handlers : Handlers η}

/-- Handlers that give up where an access fails are refined by those that go on. -/
theorem dispatchFault (extends_ : UserCode.Extends reply better) (fault : FaultRecord) :
    Refines reply better (dispatchFault handlers.strict fault) (dispatchFault handlers fault) := by
  -- Without a handler both sides exit; a failure of the handler is caught on both.
  refine bind (refl extends_ _) fun handler => ?_
  cases handler with
  | none => exact refl extends_ _
  | some handler =>
    exact tryCatch (fun _ _ _ => UserCode.run_of_strict extends_) fun failure => refl extends_ _

/-- So is all that is done about a fault. -/
theorem serviceFault (extends_ : UserCode.Extends reply better) :
    Refines reply better (serviceFault handlers.strict) (serviceFault handlers) :=
  bind (refl extends_ _) fun _ => bind (refl extends_ _) fun _ =>
    bind (dispatchFault extends_ _) fun _ => refl extends_ _

end Refines

end Program

section Refinement

variable {η σ : Type} [Cpu σ] {handlers : Handlers η}

/-- More accesses that have an outcome are more answers. -/
theorem extends_reply {access better : Access → UserState η σ → AccessOutcome η σ}
    (more : ∀ use state outcome, access use state = some outcome →
      better use state = some outcome) :
    UserCode.Extends (Request.reply access) (Request.reply better) := by
  -- Accesses are the only requests that the two answer in different ways.
  intro request state outcome replied
  cases request with
  | access use => exact more use state outcome replied
  | _ => exact replied

/-- Handlers that go on after failed accesses serve every access that they serve without them. -/
theorem serveAccess_of_strict (attempts : Nat) (use : Access) (state : UserState η σ)
    (outcome : Except UserError (List UInt8) × UserState η σ)
    (served : serveAccess handlers.strict attempts use state = some outcome) :
    serveAccess handlers attempts use state = some outcome := by
  induction attempts generalizing use state outcome with
  | zero => simp [serveAccess] at served
  | succ attempts ih =>
    have extends_ : UserCode.Extends
        (Request.reply fun use state => serveAccess (σ := σ) handlers.strict attempts use state)
        (Request.reply fun use state => serveAccess handlers attempts use state) :=
      extends_reply ih
    unfold serveAccess at served ⊢
    split
    · rename_i bytes cpu accessed
      simpa [accessed] using served
    · rename_i cpu accessed
      simpa [accessed] using served
    · rename_i cpu accessed
      simp only [accessed] at served ⊢
      -- The handlers that go on serve the fault in the same way, and then the rest as well.
      split at served
      · simp at served
      · rename_i failure last stopped
        rw [show (serviceFault handlers).run.run _ _ = some (.error failure, last) from
          Refines.serviceFault extends_ _ _ _ stopped]
        exact served
      · rename_i last resumed
        rw [show (serviceFault handlers).run.run _ _ = some (.ok (), last) from
          Refines.serviceFault extends_ _ _ _ resumed]
        exact ih _ _ _ served

end Refinement

section Survivors

open Machine

variable {η α β : Type} {start : Kernel} {me : EnvId} {handlers : Handlers η}
  {access : Access → UserState η Machine → AccessOutcome η Machine}

/-- The environment that used the processor runs on, or it has failed and that was its end. -/
def Fate (start : Kernel) (me : EnvId) : Except UserError α → UserState η Machine → Prop
  | .ok _, state => state.cpu.Running start me
  | .error _, state => state.cpu.Ended start me

/-- Every access that has an outcome meets one of the two fates. -/
def Fated (start : Kernel) (me : EnvId)
    (access : Access → UserState η Machine → AccessOutcome η Machine) : Prop :=
  -- Nothing is said of accesses that run out of tries.
  ∀ use before result after, access use before = some (result, after) →
    before.cpu.Running start me → Fate start me result after

/-- Whatever a handler asks the kernel for, it goes on with an answer. -/
theorem Machine.Running.syscall_modest {machine : Machine} (running : machine.Running start me)
    {call : Syscall} {words : Arguments}
    (allowed : (Request.syscall call words : Request η).isModest = true) :
    (machine.syscall call words).2.Running start me := by
  -- The calls for pages change memory and nothing else.
  refine running.syscall_memory fun kernel => ?_
  simp only [Request.isModest, Bool.or_eq_true, beq_iff_eq] at allowed
  obtain (rfl | rfl) | rfl := allowed
  · simp only [Kernel.perform, Kernel.allocPage]
    split <;> exact ⟨_, _, rfl⟩
  · simp only [Kernel.perform, Kernel.mapPage]
    split <;> exact ⟨_, _, rfl⟩
  · simp only [Kernel.perform, Kernel.unmapPage]
    split <;> exact ⟨_, _, rfl⟩

/-- A modest program whose accesses all succeed ends in the environment that started it. -/
theorem UserCode.Modest.running {program : UserCode η α} (modest : program.Modest)
    (fated : Fated start me access) {before after : UserState η Machine} {value : α}
    (ran : program.strict.run (Request.reply access) before = some (value, after))
    (running : before.cpu.Running start me) : after.cpu.Running start me := by
  -- No request gives the processor away, except an access that fails.
  induction modest generalizing before with
  | done value =>
    simp only [strict, run, Option.some.injEq, Prod.mk.injEq] at ran
    exact ran.2 ▸ running
  | exhausted => simp [strict, run] at ran
  | ask request next allowed rest ih =>
    simp only [strict, run] at ran
    cases replied : Request.reply access request before with
    | none => simp [replied] at ran
    | some given =>
      obtain ⟨answer, middle⟩ := given
      simp only [replied] at ran
      split at ran
      · simp [run] at ran
      · rename_i succeeded
        refine ih answer ran ?_
        -- Of the requests only an access can fail, and that would have ended the program.
        cases request with
        | syscall call words =>
          simp only [Request.reply, Option.some.injEq, Prod.mk.injEq] at replied
          rw [← replied.2]
          exact running.syscall_modest allowed
        | access use =>
          have fate := fated use before answer middle replied running
          cases answer with
          | ok bytes => exact fate
          | error failure => simp [Request.failed] at succeeded
        | rawAccess | setContext | setHandler => simp [Request.isModest] at allowed
        | context | envInfo | pageEntry | tableEntry | handler =>
          simp only [Request.reply, Option.some.injEq, Prod.mk.injEq] at replied
          rw [← replied.2]
          exact running

/-- New registers leave the environment running. -/
theorem Machine.Running.setContext {machine : Machine} (running : machine.Running start me)
    (context : UserContext) : (machine.setContext context).Running start me := by
  -- Registers are of no concern to the kernel, and it is the kernel that tells who runs.
  obtain ⟨slot, space, runs, owned⟩ := running.runs
  obtain ⟨again, kernel, -⟩ := runs.setContext context
  refine ⟨again.coupled, ?_, kernel ▸ running.others⟩
  rw [again.coupled.current_eq, Kernel.currentId, again.owns, kernel, Option.map_some, owned]

namespace Program

/-- Started by the environment that runs, a program meets one of the two fates. -/
def Safe (start : Kernel) (me : EnvId)
    (access : Access → UserState η Machine → AccessOutcome η Machine) (program : Program η α) :
    Prop :=
  -- Nothing is said of programs that run out of tries.
  ∀ before result after, Ends (Request.reply access) program before result after →
    before.cpu.Running start me → Fate start me result after

namespace Safe

/-- Safe programs, one after the other, are safe. -/
theorem bind {program : Program η α} {next : α → Program η β}
    (begins : Safe start me access program) (goesOn : ∀ value, Safe start me access (next value)) :
    Safe start me access (program >>= next) := by
  -- The second program starts in a state in which the environment runs, or not at all.
  intro before result after ends running
  rcases ends_bind_iff.mp ends with ⟨value, middle, started, finished⟩ | ⟨failure, rfl, stopped⟩
  · exact goesOn value _ _ _ finished (begins _ _ _ started running)
  · exact begins _ _ _ stopped running

/-- To give a value is safe. -/
theorem pure (value : α) : Safe start me access (pure value : Program η α) := by
  -- Nothing has been asked.
  intro before result after ends running
  obtain ⟨rfl, rfl⟩ := ends_pure.mp ends
  exact running

/-- A request that leaves the environment running does not fail. -/
theorem ask {request : Request η}
    (keeps : ∀ before answer after, Request.reply access request before = some (answer, after) →
      before.cpu.Running start me → after.cpu.Running start me) :
    Safe start me access (ask request) := by
  -- A request has an answer as its result, whatever the answer says.
  intro before result after ends running
  obtain ⟨answer, rfl, replied⟩ := ends_ask_iff.mp ends
  exact keeps before answer after replied running

/-- A request that only looks at something leaves the environment running. -/
theorem look {request : Request η} {given : UserState η Machine → request.Answer}
    (replied : ∀ state, Request.reply access request state = some (given state, state)) :
    Safe start me access (Program.ask request) := by
  -- The state after the answer is the state before it.
  refine ask fun before answer after answered running => ?_
  rw [replied, Option.some.injEq, Prod.mk.injEq] at answered
  exact answered.2 ▸ running

/-- A load is safe if accesses are. -/
theorem load (fated : Fated start me access) (va : Address) (length : Nat) :
    Safe start me access (load va length) :=
  fun before result after ends => fated _ before result after (ends_load.mp ends)

/-- A store is safe if accesses are. -/
theorem store (fated : Fated start me access) (va : Address) (data : List UInt8) :
    Safe start me access (store va data) := by
  -- A store has no bytes to give, and is an access otherwise.
  refine bind (fun before result after ends => ?_) fun _ => pure ()
  exact fated _ before result after (ends_access.mp ends)

/-- An environment that ends itself while it runs is the one that has gone. -/
theorem exit (failure : UserError) : Safe start me access (exit failure : Program η Unit) := by
  intro before result after ends running
  -- The call that ends the environment is caught, but nothing is asked after it.
  rcases ends_bind_iff.mp ends with ⟨value, middle, ended, thrown⟩ | ⟨cause, rfl, ended⟩
  · obtain ⟨rfl, rfl⟩ := ends_throw.mp thrown
    have asked : ∃ answer, Request.reply access (.syscall .destroyEnv {}) before =
        some (answer, after) := by
      rcases ends_tryCatch_iff.mp ended with ⟨_, _, answered⟩ | ⟨_, _, refused, rescued⟩
      · exact asked_of_ends_command answered
      · obtain ⟨-, rfl⟩ := ends_pure.mp rescued
        exact asked_of_ends_command refused
    obtain ⟨answer, replied⟩ := asked
    simp only [Request.reply, Option.some.injEq, Prod.mk.injEq] at replied
    rw [Fate, ← replied.2]
    exact running.syscall_exit.2
  · rcases ends_tryCatch_iff.mp ended with ⟨_, impossible, _⟩ | ⟨_, _, _, rescued⟩
    · simp at impossible
    · simp [ends_pure] at rescued

variable (modest : ∀ handler fault, (handlers handler fault).run.Modest)
include modest

/-- A handler that fails is the end of its environment, if its own accesses did not fail. -/
theorem dispatchFault (fated : Fated start me access) (fault : FaultRecord) :
    Safe start me access (dispatchFault handlers.strict fault) := by
  -- The handler itself leaves the environment running, so that whoever ends is that environment.
  refine bind (look fun _ => rfl) fun handler => ?_
  cases handler with
  | none => exact exit _
  | some handler =>
    intro before result after ends running
    have handled {result : Except UserError Unit} {after : UserState η Machine}
        (ran : Ends (Request.reply access) (handlers.strict handler fault) before result after) :
        after.cpu.Running start me :=
      (modest handler fault).running fated ran running
    rcases ends_tryCatch_iff.mp ends with ⟨value, rfl, done⟩ | ⟨failure, middle, failed, left⟩
    · exact handled done
    · exact exit failure _ _ _ left (handled failed)

/-- All that is done about a fault is safe, if the handlers are modest. -/
theorem serviceFault (fated : Fated start me access) :
    Safe start me access (serviceFault handlers.strict) := by
  -- Setting registers does not stop the environment that has them.
  have setContext (registers : UserContext) :
      Safe start me access (Program.ask (.setContext registers : Request η)) := by
    refine ask fun before answer after replied running => ?_
    simp only [Request.reply, Option.some.injEq, Prod.mk.injEq] at replied
    exact replied.2 ▸ running.setContext registers
  refine bind (look fun _ => rfl) fun _ => bind (load fated _ _) fun _ => ?_
  refine bind (dispatchFault modest fated _) fun _ => bind (store fated _ _) fun _ => ?_
  exact bind (setContext _) fun _ => bind (load fated _ _) fun _ => setContext _

end Safe

end Program

/-- An access ends in place or after it was served, or it was the end of its environment. -/
theorem fated_serveAccess (modest : ∀ handler fault, (handlers handler fault).run.Modest)
    (attempts : Nat) : Fated start me (serveAccess handlers.strict attempts) := by
  -- Induct on the attempts: accesses that handlers make have one attempt fewer.
  induction attempts with
  | zero => intro use before result after served; simp [serveAccess] at served
  | succ attempts ih =>
    intro use before result after served running
    have outcome := running.access use
    unfold serveAccess at served
    split at served
    · rename_i bytes cpu accessed
      simp only [Option.some.injEq, Prod.mk.injEq] at served
      obtain ⟨rfl, rfl⟩ := served
      simpa [accessed, Fate] using outcome
    · rename_i cpu accessed
      simp only [Option.some.injEq, Prod.mk.injEq] at served
      obtain ⟨rfl, rfl⟩ := served
      simpa [accessed, Fate] using outcome
    · -- The fault is served by the running environment, and then the access is tried again.
      rename_i cpu accessed
      have upcalled : cpu.Running start me := by simpa [accessed] using outcome
      have service := Program.Safe.serviceFault modest ih ⟨before.library, cpu⟩
      dsimp only at served
      split at served
      · simp at served
      · rename_i failure last stopped
        simp only [Option.some.injEq, Prod.mk.injEq] at served
        obtain ⟨rfl, rfl⟩ := served
        exact service _ _ stopped upcalled
      · rename_i last resumed
        exact ih _ _ _ _ served (service _ _ resumed upcalled)

/-- An environment that ends itself while it runs leaves the failure that it gave. -/
theorem ends_exit {before : UserState η Machine} (running : before.cpu.Running start me)
    (failure : UserError) :
    Ends (Request.reply access) (exit failure) before (.error failure)
      { before with cpu := (before.cpu.syscall .destroyEnv {}).2 } := by
  have asked : Request.reply access (.syscall .destroyEnv {} : Request η) before =
      some (.error .descheduled,
        { before with cpu := (before.cpu.syscall .destroyEnv {}).2 }) := by
    rw [← running.syscall_exit.1]
    rfl
  -- The processor is gone, which is caught, and then the failure is thrown.
  have refused : Ends (Request.reply access) (destroyEnv .self : Program η Unit) before
      (.error .descheduled) { before with cpu := (before.cpu.syscall .destroyEnv {}).2 } :=
    ends_bind_iff.mpr (.inr ⟨_, rfl, ends_bind_iff.mpr
      (.inl ⟨_, _, ends_ask_iff.mpr ⟨_, rfl, asked⟩, ends_throw.mpr ⟨rfl, rfl⟩⟩)⟩)
  exact ends_bind_iff.mpr (.inl ⟨(), _,
    ends_tryCatch_iff.mpr (.inr ⟨_, _, refused, ends_pure.mpr ⟨rfl, rfl⟩⟩),
    ends_throw.mpr ⟨rfl, rfl⟩⟩)

/-- An access whose fault goes to a handler that refuses every fault has a failure as outcome. -/
theorem serveAccess_of_refused (handlers : Handlers η) (library : LibraryState η)
    {machine : Machine} (running : machine.Running start me) {use : Access} {handler : η}
    (attempts : Nat)
    (faulted : (Cpu.access machine use).1 = .error .upcall)
    (recorded : ((Cpu.access machine use).2.load (Cpu.access machine use).2.context.esp
      FaultRecord.length).1.toOption.isSome = true)
    (registered : library.handler = some handler)
    (refuses : ∀ fault, ∃ failure, handlers handler fault = throw failure) :
    ∃ failure last,
      serveAccess handlers (attempts + 2) use ⟨library, machine⟩ = some (.error failure, last) := by
  -- The access faults, its record is read, and the handler gives up at once.
  have upcalled := (running.access use).resolve_right (by simp [faulted])
  have accessed : Cpu.access machine use = (.error .upcall, (Cpu.access machine use).2) := by
    rw [← faulted]
  generalize (Cpu.access machine use).2 = next at upcalled recorded accessed
  obtain ⟨bytes, read⟩ : ∃ bytes,
      next.load next.context.esp FaultRecord.length = (.ok bytes, next) := by
    cases found : next.load next.context.esp FaultRecord.length with
    | mk result after =>
      cases result with
      | error trapped => simp [found, Except.toOption] at recorded
      | ok bytes => exact ⟨bytes, by rw [(Machine.load_ok found).2.1]⟩
  obtain ⟨failure, refused⟩ := refuses (.decode bytes)
  have loaded : serveAccess handlers (attempts + 1) (.load next.context.esp FaultRecord.length)
      ⟨library, next⟩ = some (.ok bytes, ⟨library, next⟩) := by
    change Cpu.access next (.load next.context.esp FaultRecord.length) = _ at read
    simp only [serveAccess, read]
  -- A handler that throws ends the environment, and its failure is passed on.
  have dispatched : Ends (Request.reply (serveAccess handlers (attempts + 1)))
      (dispatchFault handlers (.decode bytes)) ⟨library, next⟩ (.error failure)
      ⟨library, (next.syscall .destroyEnv {}).2⟩ := by
    refine ends_bind_iff.mpr (.inl ⟨some handler, ⟨library, next⟩, ends_ask.mpr ?_, ?_⟩)
    · rw [← registered]
      rfl
    · refine ends_tryCatch_iff.mpr
        (.inr ⟨failure, ⟨library, next⟩, ?_, ends_exit upcalled.1 failure⟩)
      rw [refused]
      exact ends_throw.mpr ⟨rfl, rfl⟩
  have served : Ends (Request.reply (serveAccess handlers (attempts + 1))) (serviceFault handlers)
      ⟨library, next⟩ (.error failure) ⟨library, (next.syscall .destroyEnv {}).2⟩ :=
    ends_bind_iff.mpr (.inl ⟨_, _, ends_ask.mpr rfl, ends_bind_iff.mpr (.inl ⟨_, _,
      ends_load.mpr loaded, ends_bind_iff.mpr (.inr ⟨_, rfl, dispatched⟩)⟩)⟩)
  refine ⟨failure, ⟨library, (next.syscall .destroyEnv {}).2⟩, ?_⟩
  rw [serveAccess]
  simp only [accessed]
  rw [show (serviceFault handlers).run.run _ _ = _ from served]

namespace Machine

/--
The events that lead to an environment with an exception stack and a fault entry point.

Another environment waits for the processor.
-/
def entryRegistered : List MachineEvent :=
  -- The text segment is where the entry point lies.
  [.create ⟨0x800020, []⟩, .create ⟨0x800020, [⟨textStart, [], 1, false⟩]⟩, .boot,
    .syscall .allocPage { second := exceptionStackTop - pageSize, third := 7 },
    .syscall .setFaultEntry { second := faultEntryPoint }]

/--
When a memory access fails, its environment has gone, and no other environment has.

The handlers use memory, change mappings and look at things, to any depth of nested faults. None
of the accesses that they make themselves may fail: the handler is then left without an
environment, and what it does next is done to whoever runs.
-/
theorem survivors_after (config : Config) (past : List MachineEvent) (me : EnvId)
    (library : LibraryState η) (handlers : Handlers η)
    (modest : ∀ handler fault, (handlers handler fault).run.Modest)
    (attempts : Nat) (use : Access) (failure : UserError) (last : UserState η Machine)
    (current : (after config past).current = some me)
    (failed : serveAccess handlers attempts use ⟨library, after config past⟩ =
      some (.error failure, last)) :
    serveAccess handlers.strict attempts use ⟨library, after config past⟩ = none ∨
      last.cpu.kernel.env? me = none ∧
        ∀ id, id ≠ me → ((after config past).kernel.env? id).isSome = true →
          (last.cpu.kernel.env? id).isSome = true := by
  have running : (after config past).Running (after config past).kernel me :=
    ⟨coupled_after config past, current, .refl _ me⟩
  cases served : serveAccess handlers.strict attempts use ⟨library, after config past⟩ with
  | none => exact .inl rfl
  | some outcome =>
    -- Handlers whose accesses all succeed do the same whether or not they could go on.
    have same := serveAccess_of_strict attempts use _ _ served
    rw [failed, Option.some.injEq] at same
    subst same
    have ended := fated_serveAccess modest attempts use _ _ _ served running
    exact .inr ⟨ended.gone, ended.others⟩

/-- A handler that handles nothing is the end of its environment, and the other one goes on. -/
theorem survivors_refused : ∃ failure, ∃ last : UserState FaultPolicy Machine,
    serveAccess FaultPolicy.handlers 2 (.load 0x400000 1)
        ⟨{ handler := some .refuse }, after { frames := 32 } entryRegistered⟩ =
      some (.error failure, last) ∧
    last.cpu.kernel.env? ⟨4097⟩ = none ∧ (last.cpu.kernel.env? ⟨4096⟩).isSome = true := by
  have current : (after { frames := 32 } entryRegistered).current = some ⟨4097⟩ := by
    decide +kernel
  have waits : ((after { frames := 32 } entryRegistered).kernel.env? ⟨4096⟩).isSome = true := by
    decide +kernel
  have faulted : (Cpu.access (after { frames := 32 } entryRegistered) (.load 0x400000 1)).1 =
      .error .upcall := by
    decide +kernel
  have recorded : ((Cpu.access (after { frames := 32 } entryRegistered) (.load 0x400000 1)).2.load
      (Cpu.access (after { frames := 32 } entryRegistered) (.load 0x400000 1)).2.context.esp
      FaultRecord.length).1.toOption.isSome = true := by
    decide +kernel
  have running : (after { frames := 32 } entryRegistered).Running
      (after { frames := 32 } entryRegistered).kernel ⟨4097⟩ :=
    ⟨coupled_after _ _, current, .refl _ _⟩
  obtain ⟨failure, last, failed⟩ := serveAccess_of_refused FaultPolicy.handlers
    { handler := some .refuse } running 0 faulted recorded rfl fun fault => ⟨_, rfl⟩
  obtain ⟨_, _, strictly⟩ := serveAccess_of_refused FaultPolicy.handlers.strict
    { handler := some .refuse } running 0 faulted recorded rfl fun fault => ⟨_, rfl⟩
  -- The strict run comes to an end as well, so that no access of the handler itself has failed.
  obtain impossible | ⟨gone, others⟩ := survivors_after { frames := 32 } entryRegistered ⟨4097⟩ _ _
    FaultPolicy.modest_handlers 2 _ failure last current failed
  · simp [strictly] at impossible
  · exact ⟨failure, last, failed, gone, others _ (by decide) waits⟩

end Machine

end Survivors

end Exokernel
