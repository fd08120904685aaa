import Exokernel.Proofs.User.Handlers

/-! A processor that counts the page faults it hands to user code. -/

namespace Exokernel

open Program

/-- A processor with a count of the faults that went to user code. -/
structure Counted (σ : Type) where
  /-- The processor. -/
  cpu : σ
  /-- How many accesses have ended with an upcall. -/
  upcalls : Nat

/-- How many upcalls an access has ended with. -/
def upcallsOf : Except Trapped (List UInt8) → Nat
  | .error .upcall => 1
  | _ => 0

/-- A counting processor is the processor, and only its accesses are counted. -/
instance {σ : Type} [Cpu σ] : Cpu (Counted σ) where
  syscall state call words :=
    let (result, cpu) := Cpu.syscall state.cpu call words
    (result, { state with cpu })
  access state use :=
    let (result, cpu) := Cpu.access state.cpu use
    (result, ⟨cpu, state.upcalls + upcallsOf result⟩)
  context state := Cpu.context state.cpu
  setContext state registers := { state with cpu := Cpu.setContext state.cpu registers }
  envInfo state position := Cpu.envInfo state.cpu position
  pageEntry state page := Cpu.pageEntry state.cpu page
  tableEntry state index := Cpu.tableEntry state.cpu index

namespace UserState

variable {η σ : Type}

/-- The state with a count. -/
def counted (state : UserState η σ) (count : Nat) : UserState η (Counted σ) :=
  ⟨state.library, ⟨state.cpu, count⟩⟩

/-- The state without its count. -/
def plain (state : UserState η (Counted σ)) : UserState η σ :=
  ⟨state.library, state.cpu.cpu⟩

end UserState

/-- A program whose requests are answered alike in two kinds of states ends alike in both. -/
theorem UserCode.run_map {η σ τ α : Type} (view : τ → σ)
    {reply : (request : Request η) → τ → Option (request.Answer × τ)}
    {seen : (request : Request η) → σ → Option (request.Answer × σ)}
    (alike : ∀ request state,
      seen request (view state) = (reply request state).map (Prod.map id view))
    (program : UserCode η α) (state : τ) :
    program.run seen (view state) = (program.run reply state).map (Prod.map id view) := by
  -- Induct on the program: what it asks first is answered alike, and so it goes on alike.
  induction program generalizing state with
  | done value => rfl
  | exhausted => rfl
  | ask request next ih =>
    simp only [run, alike]
    cases reply request state with
    | none => rfl
    | some outcome => exact ih outcome.1 outcome.2

section Serving

variable {η σ : Type} [Cpu σ] {handlers : Handlers η} {attempts : Nat} {use : Access}
  {state : UserState η σ} {cpu : σ}

/-- An access that is made in place. -/
theorem serveAccess_of_made {bytes : List UInt8}
    (accessed : Cpu.access state.cpu use = (.ok bytes, cpu)) :
    serveAccess handlers (attempts + 1) use state = some (.ok bytes, { state with cpu }) := by
  -- The first try succeeds.
  simp only [serveAccess, accessed]

/-- An access that loses the processor. -/
theorem serveAccess_of_lost (accessed : Cpu.access state.cpu use = (.error .descheduled, cpu)) :
    serveAccess handlers (attempts + 1) use state =
      some (.error .descheduled, { state with cpu }) := by
  -- Nobody is there to try again.
  simp only [serveAccess, accessed]

/-- An access that faults is tried again once its fault has been served. -/
theorem serveAccess_of_fault (accessed : Cpu.access state.cpu use = (.error .upcall, cpu)) :
    serveAccess handlers (attempts + 1) use state =
      ((serviceFault handlers).run.run (Request.reply (serveAccess handlers attempts))
        { state with cpu }).bind fun
        | (.error failure, last) => some (.error failure, last)
        | (.ok (), last) => serveAccess handlers attempts use last := by
  -- Its fault has been delivered, and the service begins in the state after it.
  simp only [serveAccess, accessed]
  generalize (serviceFault handlers).run.run _ _ = served
  rcases served with _ | ⟨_ | _, last⟩ <;> rfl

/-- A command makes its call and ends, whatever the answer means. -/
theorem exists_ends_command (access : Access → UserState η σ → AccessOutcome η σ) (call : Syscall)
    (words : Arguments) (before : UserState η σ) :
    ∃ result, Ends (Request.reply access) (command call words) before result
      { before with cpu := (Cpu.syscall before.cpu call words).2 } := by
  have asked : Ends (Request.reply access) (ask (.syscall call words)) before
      (.ok (Cpu.syscall before.cpu call words).1)
      { before with cpu := (Cpu.syscall before.cpu call words).2 } := ends_ask.mpr rfl
  have called : ∃ result, Ends (Request.reply access) (Program.call call words) before result
      { before with cpu := (Cpu.syscall before.cpu call words).2 } := by
    simp only [Program.call, ends_bind_iff]
    -- The processor may be lost, and a word may mean an error.
    rcases answer : (Cpu.syscall before.cpu call words).1 with trapped | word
    · exact ⟨_, .inl ⟨_, _, answer ▸ asked, ends_throw.mpr ⟨rfl, rfl⟩⟩⟩
    · cases meaning : SysError.ofWord? word with
      | some error =>
        refine ⟨.error (.kernel error), .inl ⟨_, _, answer ▸ asked, ?_⟩⟩
        simp only [meaning]
        exact ends_throw.mpr ⟨rfl, rfl⟩
      | none =>
        refine ⟨.ok word, .inl ⟨_, _, answer ▸ asked, ?_⟩⟩
        simp only [meaning]
        exact ends_pure.mpr ⟨rfl, rfl⟩
  obtain ⟨result | word, ended⟩ := called
  · exact ⟨_, ends_bind_iff.mpr (.inr ⟨_, rfl, ended⟩)⟩
  · exact ⟨_, ends_bind_iff.mpr (.inl ⟨_, _, ended, ends_pure.mpr ⟨rfl, rfl⟩⟩)⟩

/-- To end oneself is to make one call, whatever its answer, and to fail. -/
theorem ends_exit_of (access : Access → UserState η σ → AccessOutcome η σ)
    (before : UserState η σ) (failure : UserError) :
    Ends (Request.reply access) (exit failure) before (.error failure)
      { before with cpu := (Cpu.syscall before.cpu .destroyEnv {}).2 } := by
  obtain ⟨result, called⟩ := exists_ends_command access .destroyEnv {} before
  refine ends_bind_iff.mpr (.inl ⟨(), _, ends_tryCatch_iff.mpr ?_, ends_throw.mpr ⟨rfl, rfl⟩⟩)
  -- An answer that means an error is caught.
  cases result with
  | ok => exact .inl ⟨(), rfl, called⟩
  | error refusal => exact .inr ⟨_, _, called, ends_pure.mpr ⟨rfl, rfl⟩⟩

/-- More attempts do not change the outcome of an access. -/
theorem serveAccess_more {outcome : Except UserError (List UInt8) × UserState η σ}
    (served : serveAccess handlers attempts use state = some outcome) :
    serveAccess handlers (attempts + 1) use state = some outcome := by
  -- Induct on the attempts: a fault is served as before, and so is the next try.
  induction attempts generalizing use state outcome with
  | zero => simp [serveAccess] at served
  | succ attempts ih =>
    rcases accessed : Cpu.access state.cpu use with ⟨⟨_ | _⟩ | bytes, cpu⟩
    · rw [serveAccess_of_fault accessed] at served ⊢
      obtain ⟨⟨result, last⟩, service, rest⟩ := Option.bind_eq_some_iff.mp served
      have again := UserCode.run_of_extends (extends_reply fun _ _ _ => ih) service
      rw [Option.bind_eq_some_iff]
      refine ⟨_, again, ?_⟩
      cases result with
      | error failure => exact rest
      | ok => exact ih rest
    · rw [serveAccess_of_lost accessed] at served ⊢
      exact served
    · rw [serveAccess_of_made accessed] at served ⊢
      exact served

/-- What is served in some number of tries is served in more. -/
theorem serveAccess_mono {fewer more : Nat} (le : fewer ≤ more)
    {outcome : Except UserError (List UInt8) × UserState η σ}
    (served : serveAccess handlers fewer use state = some outcome) :
    serveAccess handlers more use state = some outcome := by
  -- Induct on how many more there are.
  induction le with
  | refl => exact served
  | step _ ih => exact serveAccess_more ih

end Serving

section Counting

variable {η σ α : Type} [Cpu σ] {handlers : Handlers η} {attempts : Nat}

/-- Counting changes no answer. -/
theorem reply_plain {access : Access → UserState η σ → AccessOutcome η σ}
    {counting : Access → UserState η (Counted σ) → AccessOutcome η (Counted σ)}
    (alike : ∀ use state, access use state.plain =
      (counting use state).map (Prod.map id UserState.plain))
    (request : Request η) (state : UserState η (Counted σ)) :
    Request.reply access request state.plain =
      (Request.reply counting request state).map (Prod.map id UserState.plain) := by
  -- Only served accesses are answered by something else than the processor and the library.
  cases request with
  | access use => exact alike use state
  | _ => rfl

/-- An access of a counting processor is that of the processor. -/
theorem access_counted {cpu next : σ} {use : Access} {result : Except Trapped (List UInt8)}
    (accessed : Cpu.access cpu use = (result, next)) (count : Nat) :
    Cpu.access (⟨cpu, count⟩ : Counted σ) use = (result, ⟨next, count + upcallsOf result⟩) := by
  -- The count is all that is added.
  obtain rfl : (Cpu.access cpu use).1 = result := congrArg Prod.fst accessed
  obtain rfl : (Cpu.access cpu use).2 = next := congrArg Prod.snd accessed
  rfl

/-- Counting changes nothing about how an access is served. -/
theorem serveAccess_plain (handlers : Handlers η) (attempts : Nat) (use : Access)
    (state : UserState η (Counted σ)) :
    serveAccess handlers attempts use state.plain =
      (serveAccess handlers attempts use state).map (Prod.map id UserState.plain) := by
  -- Induct on the attempts: a fault is served alike, and then the access is tried again alike.
  induction attempts generalizing use state with
  | zero => rfl
  | succ attempts ih =>
    have service := UserCode.run_map UserState.plain
      (reply_plain ih) (serviceFault handlers).run
    obtain ⟨library, cpu, count⟩ := state
    change serveAccess handlers (attempts + 1) use (⟨library, cpu⟩ : UserState η σ) = _
    rcases accessed : Cpu.access cpu use with ⟨⟨_ | _⟩ | bytes, next⟩ <;>
      have counting : Cpu.access (⟨library, ⟨cpu, count⟩⟩ : UserState η (Counted σ)).cpu use = _ :=
        access_counted accessed count
    · rw [serveAccess_of_fault accessed, serveAccess_of_fault counting, Option.map_bind]
      have served := service ⟨library, next, count + upcallsOf (.error .upcall)⟩
      change UserCode.run _ _ (⟨library, next⟩ : UserState η σ) = _ at served
      change Option.bind (UserCode.run _ _ (⟨library, next⟩ : UserState η σ)) _ = _
      rw [served, Option.bind_map]
      congr 1
      funext outcome
      obtain ⟨_ | _, last⟩ := outcome
      · rfl
      · exact ih use last
    · rw [serveAccess_of_lost accessed, serveAccess_of_lost counting]
      rfl
    · rw [serveAccess_of_made accessed, serveAccess_of_made counting]
      rfl

/-- With a single attempt, an access that has an outcome has not faulted. -/
theorem upcalls_of_single {use : Access} {before after : UserState η (Counted σ)}
    {result : Except UserError (List UInt8)}
    (served : serveAccess handlers 1 use before = some (result, after)) :
    after.cpu.upcalls = before.cpu.upcalls := by
  obtain ⟨library, cpu, count⟩ := before
  rcases accessed : Cpu.access cpu use with ⟨⟨_ | _⟩ | bytes, next⟩ <;>
    have counting : Cpu.access (⟨library, ⟨cpu, count⟩⟩ : UserState η (Counted σ)).cpu use = _ :=
      access_counted accessed count
  · -- A fault would be served by a program that has no attempt to read its record.
    rw [serveAccess_of_fault counting, Option.bind_eq_some_iff] at served
    obtain ⟨⟨served, last⟩, service, -⟩ := served
    rcases ends_bind_iff.mp service with ⟨context, middle, -, reads⟩ | ⟨failure, -, asked⟩
    · rcases ends_bind_iff.mp reads with ⟨bytes, _, read, -⟩ | ⟨failure, -, read⟩ <;>
      · have none := ends_load.mp read
        simp [Request.reply, serveAccess] at none
    · obtain ⟨_, impossible, -⟩ := ends_ask_iff.mp asked
      simp at impossible
  · rw [serveAccess_of_lost counting, Option.some.injEq, Prod.mk.injEq] at served
    rw [← served.2]
    rfl
  · rw [serveAccess_of_made counting, Option.some.injEq, Prod.mk.injEq] at served
    rw [← served.2]
    rfl

/-- With a single attempt for each access, a modest program that ends has not faulted. -/
theorem UserCode.Modest.upcalls_eq {program : UserCode η α} (modest : program.Modest)
    {before after : UserState η (Counted σ)} {value : α}
    (ran : program.run (Request.reply (serveAccess handlers 1)) before = some (value, after)) :
    after.cpu.upcalls = before.cpu.upcalls := by
  induction modest generalizing before with
  | done value =>
    simp only [UserCode.run, Option.some.injEq, Prod.mk.injEq] at ran
    rw [ran.2]
  | exhausted => simp [UserCode.run] at ran
  | ask request next allowed rest ih =>
    simp only [UserCode.run] at ran
    split at ran
    · rename_i answer middle replied
      rw [ih answer ran]
      -- System calls and views are not counted, and accesses have a single attempt.
      cases request with
      | access use =>
        have served : serveAccess handlers 1 use before = some (answer, middle) := replied
        exact upcalls_of_single served
      | rawAccess | setContext | setHandler => simp [Request.isModest] at allowed
      | _ =>
        simp only [Request.reply, Option.some.injEq, Prod.mk.injEq] at replied
        rw [← replied.2]
        try rfl
    · simp at ran

/-- A modest program that ends with a single attempt for each access does so while it is counted. -/
theorem ends_counted {program : Program η α} (modest : program.run.Modest)
    {before after : UserState η σ} {result : Except UserError α}
    (ends : Ends (Request.reply (serveAccess handlers 1)) program before result after)
    (attempts count : Nat) :
    Ends (Request.reply (serveAccess handlers (attempts + 1))) program (before.counted count) result
      (after.counted count) := by
  -- The run without a count is one with it, of which the count is known not to move.
  have plainly := UserCode.run_map UserState.plain (reply_plain (serveAccess_plain handlers 1))
    program.run (before.counted count)
  rw [show program.run.run _ (before.counted count).plain = some (result, after) from ends,
    eq_comm, Option.map_eq_some_iff] at plainly
  obtain ⟨⟨value, last⟩, ran, same⟩ := plainly
  obtain ⟨rfl, rfl⟩ := Prod.mk.inj same
  have kept := modest.upcalls_eq ran
  have more := UserCode.run_of_extends
    (extends_reply fun _ _ _ => serveAccess_mono (Nat.le_add_left 1 attempts)) ran
  have same : last = last.plain.counted count := by
    obtain ⟨library, cpu, upcalls⟩ := last
    obtain rfl : upcalls = count := kept
    rfl
  rwa [same] at more

end Counting

end Exokernel
