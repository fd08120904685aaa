import Exokernel.Proofs.Kernel.SendAnswers
import Exokernel.Proofs.TimerTurns
import Exokernel.Proofs.User.ChildCalls
import Exokernel.Proofs.User.Wrappers
import Exokernel.User.Messages

/-! What messages come to in the user library: a send is over after one attempt, or never. -/

namespace Exokernel

namespace Machine

variable {machine next : Machine} {slot chosen : Slot} {space : SpaceHandle} {words : Arguments}

/-- The kernel in which the owner of the processor offers it to others, with a zero to go on. -/
def offered (machine : Machine) (slot : Slot) (words : Arguments) : Kernel :=
  -- The registers are saved first, so that the zero is in the saved ones.
  (machine.calling slot .yield words).withResult 0

/-- To offer the processor changes no profile. -/
theorem profile_offered (machine : Machine) (slot : Slot) (words : Arguments) :
    (machine.offered slot words).profile = machine.kernel.profile :=
  (Kernel.profile_withResult _ 0).trans (machine.profile_calling slot .yield words)

namespace Runs

/-- The processor that is offered goes to whoever is next in turn. -/
theorem syscall_yield (runs : machine.Runs slot space) (words : Arguments)
    (picked : machine.kernel.pickNext = some chosen) :
    (machine.syscall .yield words).2 =
      apply (.resume ((machine.offered slot words).envAt chosen).id
        ((machine.offered slot words).envAt chosen).frame,
          (machine.offered slot words).dispatched chosen) := by
  have user : (called (machine.frame?.getD {}) .yield words).fromUser = true := runs.fromUser
  have owns : (machine.calling slot .yield words).current = some slot := runs.owns
  have last : (machine.offered slot words).lastRun = machine.kernel.lastRun := by
    rw [offered, Kernel.withResult_of_current owns]
    rfl
  -- Neither the saved registers nor the answer have a part in the choice.
  have same : (machine.offered slot words).pickNext = some chosen := by
    rw [← picked]
    exact Kernel.pickNext_congr last fun other => congrArg (· == Status.runnable)
      (Kernel.status_of_profile (machine.profile_offered slot words) other)
  have performed : (machine.calling slot .yield words).perform .yield words =
      (.leave (machine.offered slot words).reschedule.1,
        (machine.offered slot words).reschedule.2) := by
    simp only [Kernel.perform, Kernel.yield, offered]
  rw [runs.syscall_snd, Kernel.trap_request_leave user runs.owns (requests_called _ .yield words) 0
    performed, Kernel.reschedule_of_pickNext same]

/-- Whoever is next in turn itself keeps the processor that it offers. -/
theorem yield_of_alone (runs : machine.Runs slot space) (words : Arguments)
    (alone : machine.kernel.pickNext = some slot) : ∃ next,
      machine.syscall .yield words = (.ok 0, next) ∧
        next.Proceeds slot space machine.kernel := by
  have profile := machine.profile_calling slot .yield words
  have owns : (machine.calling slot .yield words).current = some slot := runs.owns
  have moved := runs.syscall_yield words alone
  rw [offered, Kernel.envAt_withResult owns] at moved
  -- It goes on with its zero, as from a call that is answered at once.
  have named : ((machine.calling slot .yield words).envAt slot).id =
      (machine.kernel.envAt slot).id := Kernel.id_of_profile profile slot
  have result := runs.syscall_of_cpu (by rw [moved, ← named]; rfl)
  obtain ⟨last, yielded, proceeds⟩ := runs.proceeds_of_answered (Prod.ext result moved)
    ((Kernel.space_of_profile profile slot).trans runs.held) rfl
  exact ⟨last, yielded, proceeds.runs, proceeds.memory_eq, proceeds.profile_eq.trans profile,
    proceeds.config_eq⟩

/-- Whoever keeps the processor that it offers is next in turn itself. -/
theorem alone_of_yield (runs : machine.Runs slot space) {word : Word}
    (kept : (machine.syscall .yield words).1 = .ok word) :
    machine.kernel.pickNext = some slot := by
  cases picked : machine.kernel.pickNext with
  | none =>
    -- The owner of the processor could always go on.
    have exhausted := Kernel.not_isRunnable_of_pickNext picked slot
    simp [runs.ready] at exhausted
  | some chosen =>
    by_contra other
    -- Another one has another id, because ids lead back to their slots.
    have ready := Kernel.isRunnable_of_pickNext picked
    have home := runs.coupled.settled.envs.slot_id (Env.isLive_of_isRunnable ready)
    have elsewhere : (machine.syscall .yield words).2.current ≠ machine.current := by
      rw [runs.syscall_yield words picked, runs.current]
      show some ((machine.offered slot words).envAt chosen).id ≠ _
      rw [Kernel.id_of_profile (machine.profile_offered slot words)]
      intro same
      have slots := congrArg EnvId.slot (Option.some.inj same)
      rw [runs.slot_id] at slots
      exact other (congrArg some (home.symm.trans slots))
    have lost := runs.syscall_of_lost elsewhere
    simp [kept] at lost

end Runs

/-- An environment sends to one that does not wait, while nobody else can run. -/
structure Futile (machine : Machine) (slot : Slot) (space : SpaceHandle) (request : SendRequest) :
    Prop where
  /-- The sender runs. -/
  runs : machine.Runs slot space
  /-- It is refused, and may try again. -/
  refused : machine.kernel.sendAnswer slot request = .error .notReceiving
  /-- It is next in turn itself. -/
  alone : machine.kernel.pickNext = some slot

/-- What changes neither profiles nor memory leaves a futile send futile. -/
theorem Futile.proceeds {request : SendRequest} (futile : machine.Futile slot space request)
    (proceeds : next.Proceeds slot space machine.kernel) : next.Futile slot space request where
  runs := proceeds.runs
  refused :=
    (Kernel.sendAnswer_of_profile proceeds.profile_eq proceeds.memory_eq).trans futile.refused
  alone := by
    -- Before and after it the sender was dispatched last.
    obtain ⟨-, before, -⟩ := futile.runs.coupled.settled.running slot futile.runs.owns
    obtain ⟨-, after, -⟩ := proceeds.runs.coupled.settled.running slot proceeds.runs.owns
    rw [← futile.alone]
    exact Kernel.pickNext_congr (after.trans before.symm) fun other =>
      congrArg (· == Status.runnable) (Kernel.status_of_profile proceeds.profile_eq other)

/-- A send that is refused because nobody waits changes nothing, and the sender goes on. -/
theorem Runs.trySend_refused (runs : machine.Runs slot space)
    (refused : machine.kernel.sendAnswer slot (.ofArguments words) = .error .notReceiving) :
    ∃ next, machine.syscall .trySend words = (.ok SysError.notReceiving.toWord, next) ∧
      next.Proceeds slot space machine.kernel := by
  have profile := machine.profile_calling slot .trySend words
  have owns : (machine.calling slot .trySend words).current = some slot := runs.owns
  -- The answer is the same as in the kernel without the saved registers.
  have answer := (Kernel.sendAnswer_of_profile profile rfl).trans refused
  have performed : (machine.calling slot .trySend words).perform .trySend words =
      Kernel.answerUnit (.error .notReceiving, machine.calling slot .trySend words) := by
    rw [Kernel.perform, Kernel.trySend_of_notReceiving owns answer]
    rfl
  exact runs.proceeds_memory performed rfl

/-- Whoever is refused because nobody waits was refused by the kernel. -/
theorem Runs.refused_of_trySend (runs : machine.Runs slot space) {word : Word}
    (answered : (machine.syscall .trySend words).1 = .ok word)
    (meaning : SysError.ofWord? word = some .notReceiving) :
    machine.kernel.sendAnswer slot (.ofArguments words) = .error .notReceiving := by
  have keeps : (machine.syscall .trySend words).2.current = machine.current := by
    by_contra lost
    rw [runs.syscall_of_lost lost] at answered
    simp at answered
  have found := runs.syscall_of_keeps keeps
  rw [answered, result?, runs.owns, Option.bind_some] at found
  simp only [Kernel.result?, Option.map_some, Option.getD_some, Except.ok.injEq] at found
  rw [found] at meaning
  -- The saved registers have no part in the answer.
  rw [← Kernel.sendAnswer_of_profile (machine.profile_calling slot .trySend words) rfl,
    ← (runs.consistent_calling .trySend words).trySend_fst runs.owns]
  cases sent : ((machine.calling slot .trySend words).trySend (.ofArguments words)).1 with
  | ok value =>
    -- A value is not taken for an error.
    rw [sent, SysError.ofWord?_encodeResult fun other same => by
      cases same; exact Kernel.trySend_result_lt sent] at meaning
    simp at meaning
  | error error =>
    rw [sent, SysError.encodeResult, SysError.ofWord?_toWord, Option.some.injEq] at meaning
    rw [meaning]

/-- Whoever waits for a message loses the processor. -/
theorem Runs.receive_lost (runs : machine.Runs slot space) {landing : Option Address}
    (resolved : Kernel.resolveLanding words.first = .ok landing) :
    (machine.syscall .receive words).1 = .error .descheduled := by
  have user : (called (machine.frame?.getD {}) .receive words).fromUser = true := runs.fromUser
  have request := requests_called (machine.frame?.getD {}) .receive words
  obtain ⟨begun, owns, ready⟩ := runs.coupled.settled.saved user runs.owns
  refine runs.syscall_of_lost fun keeps => ?_
  have effect : (machine.calling slot .receive words).Effect slot
      (called (machine.frame?.getD {}) .receive words) 0 _ (some 0) := .receive request resolved
  have consistent := (begun.effect owns ready effect).answered (some 0)
  -- To have it again, the caller would have to be able to run, and it is blocked.
  obtain ⟨able, -⟩ := runs.syscall_of_ends consistent (by
    rw [Kernel.trap_receive user runs.owns request 0 resolved]
    exact Kernel.ends_reschedule _) keeps
  have stillOwns : ((machine.calling slot .receive words).modifyEnv slot
      (·.waiting landing)).current = some slot := runs.owns
  have answered := Kernel.envAt_withResult stillOwns 0
  rw [Kernel.envAt_modifyEnv, if_pos rfl] at answered
  exact Bool.false_ne_true ((congrArg Env.isRunnable answered).symm.trans able)

/-- Whoever waits with a bad address for a page is refused, and nothing else happens. -/
theorem Runs.receive_refused (runs : machine.Runs slot space) {error : SysError}
    (resolved : Kernel.resolveLanding words.first = .error error) :
    ∃ next, machine.syscall .receive words = (.ok error.toWord, next) ∧
      next.Proceeds slot space machine.kernel := by
  have owns : (machine.calling slot .receive words).current = some slot := runs.owns
  -- The address is looked at before anything is written.
  have performed : (machine.calling slot .receive words).perform .receive words =
      Kernel.answerUnit (.error error, machine.calling slot .receive words) := by
    simp only [Kernel.perform, Kernel.receive, Kernel.owner, owns, resolved]
  exact runs.proceeds_memory performed rfl

end Machine

namespace Program

variable {η : Type} {handlers : Handlers η} {attempts tries : Nat} {env : EnvId} {value : Word}
  {page : Option (Address × PageFlags)}

/-- A single attempt to send a message, with a page if one is given. -/
def attempt (env : EnvId) (value : Word) (page : Option (Address × PageFlags)) : Wrapper Bool :=
  .trySend env value (page.getD (userTop, .empty)).1 (page.getD (userTop, .empty)).2

/-- Without attempts left a send has no outcome. -/
theorem execute_send_zero {σ : Type} [Cpu σ] (state : UserState η σ) :
    (send env value page 0).execute handlers attempts state = none :=
  rfl

/-- With attempts left a send makes one, and goes on if it was refused and kept the processor. -/
theorem execute_send_succ {σ : Type} [Cpu σ] (state : UserState η σ) :
    (send env value page (tries + 1)).execute handlers attempts state =
      ((attempt env value page).program.execute handlers attempts state).bind fun outcome =>
        match outcome with
        | (.error (.kernel .notReceiving), refused) =>
          (yield.execute handlers attempts refused).bind fun outcome =>
            match outcome with
            | (.ok (), offered) => (send env value page tries).execute handlers attempts offered
            | (.error failure, offered) => some (.error failure, offered)
        | outcome => some outcome := by
  -- The outcome of the attempt is looked at as a value, and so it is of the offer.
  have steps : (send env value page (tries + 1) : Program η Bool) =
      observe (attempt env value page).program >>= _ := rfl
  rw [steps, execute, observe, ExceptT.run_bind_lift, UserCode.run_bind]
  show ((attempt env value page).program.execute handlers attempts state).bind _ = _
  congr 1
  funext outcome
  obtain ⟨result, refused⟩ := outcome
  cases result with
  | ok sent => rfl
  | error failure =>
    cases failure with
    | kernel cause =>
      cases cause with
      | notReceiving =>
        -- Only here there is something left to do.
        dsimp only
        rw [ExceptT.run_bind, UserCode.run_bind]
        show (yield.execute handlers attempts refused).bind _ = _
        congr 1
        funext outcome
        obtain ⟨result, offered⟩ := outcome
        cases result <;> rfl
      | _ => rfl
    | _ => rfl

variable {machine : Machine} {slot : Slot} {space : SpaceHandle} {library : LibraryState η}

/-- A send that is futile has no outcome, however many attempts it is allowed. -/
theorem execute_send_of_futile
    (futile : machine.Futile slot space (.ofArguments (attempt env value page).words)) :
    (send env value page tries).execute handlers attempts ⟨library, machine⟩ = none := by
  -- Induct on the attempts: each is refused, and the sender keeps the processor that it offers.
  induction tries generalizing machine with
  | zero => exact execute_send_zero _
  | succ tries ih =>
    obtain ⟨refused, answered, stays⟩ := futile.runs.trySend_refused futile.refused
    have still := futile.proceeds stays
    obtain ⟨offered, kept, again⟩ := still.runs.yield_of_alone {} still.alone
    have first : (attempt env value page).program.execute handlers attempts ⟨library, machine⟩ =
        some (.error (.kernel .notReceiving), ⟨library, refused⟩) := by
      rw [Wrapper.execute_of_syscall _ handlers attempts library answered, Wrapper.read,
        SysError.ofWord?_toWord]
    have second : Program.yield.execute handlers attempts ⟨library, refused⟩ =
        some (.ok (), ⟨library, offered⟩) :=
      Wrapper.yield.execute_of_syscall handlers attempts library kept
    rw [execute_send_succ, first, Option.bind_some]
    dsimp only
    rw [second, Option.bind_some]
    exact ih (still.proceeds again)

/-- Whoever is refused and keeps the processor that it offers sends in vain. -/
theorem futile_of_kept {refused offered : UserState η Machine} (coupled : machine.Coupled)
    (tried : (attempt env value page).program.execute handlers attempts ⟨library, machine⟩ =
      some (.error (.kernel .notReceiving), refused))
    (kept : Program.yield.execute handlers attempts refused = some (.ok (), offered)) :
    ∃ slot space, offered.cpu.Futile slot space (.ofArguments (attempt env value page).words) := by
  rw [Wrapper.execute_program, Option.some.injEq, Prod.mk.injEq] at tried
  obtain ⟨reading, rfl⟩ := tried
  obtain ⟨word, answered, meaning⟩ := Wrapper.read_eq_kernel.mp reading
  -- Somebody runs, as there is an answer.
  obtain ⟨id, running⟩ : ∃ id, machine.current = some id := by
    refine Option.ne_none_iff_exists'.mp fun nobody => ?_
    have lost := Machine.syscall_of_current_none .trySend (attempt env value page).words nobody
    exact absurd (answered.symm.trans lost) (by simp)
  obtain ⟨slot, space, runs, -⟩ := coupled.runs_of_running running
  have answer := runs.refused_of_trySend answered meaning
  obtain ⟨next, sent, stays⟩ := runs.trySend_refused answer
  -- Then it has offered the processor, and has it again.
  have offering : Wrapper.yield.program.execute handlers attempts ⟨library, next⟩ =
      some (.ok (), offered) := by
    have moved : (machine.syscall .trySend (attempt env value page).words).2 = next :=
      congrArg Prod.snd sent
    rw [← moved]
    exact kept
  rw [Wrapper.execute_program, Option.some.injEq, Prod.mk.injEq] at offering
  obtain ⟨reading, rfl⟩ := offering
  obtain ⟨word, kept⟩ := Wrapper.ok_of_read reading
  have futile : next.Futile slot space (.ofArguments (attempt env value page).words) :=
    { runs := stays.runs
      refused := (Kernel.sendAnswer_of_profile stays.profile_eq stays.memory_eq).trans answer
      alone := stays.runs.alone_of_yield kept }
  obtain ⟨last, yielded, again⟩ := stays.runs.yield_of_alone {} futile.alone
  refine ⟨slot, space, ?_⟩
  show (next.syscall .yield {}).2.Futile _ _ _
  rw [yielded]
  exact futile.proceeds again

/-- However many attempts it is allowed, a send is over after the first one, or never. -/
theorem execute_send_of_coupled (coupled : machine.Coupled) :
    (send env value page (tries + 1)).execute handlers attempts ⟨library, machine⟩ =
      (send env value page 1).execute handlers attempts ⟨library, machine⟩ := by
  -- The two differ only after a refusal, and if the sender keeps the processor that it offers.
  rw [execute_send_succ, execute_send_succ]
  refine Option.bind_congr fun outcome tried => ?_
  split
  · refine Option.bind_congr fun outcome kept => ?_
    split
    · obtain ⟨slot, space, futile⟩ := futile_of_kept coupled tried kept
      rw [execute_send_zero]
      exact execute_send_of_futile futile
    · rfl
  · rfl

/--
In every state of a machine a send is over after its first attempt, or never, however many attempts
it is allowed. To wait for its receiver it would have to lose the processor, which ends it.
-/
theorem send_after (config : Config) (past : List MachineEvent) (handlers : Handlers η)
    (attempts tries : Nat) (library : LibraryState η) (env : EnvId) (value : Word)
    (page : Option (Address × PageFlags)) :
    (send env value page (tries + 1)).execute handlers attempts
        ⟨library, Machine.after config past⟩ =
      (send env value page 1).execute handlers attempts ⟨library, Machine.after config past⟩ :=
  execute_send_of_coupled (Machine.coupled_after config past)

/-- What waiting for a message comes to: nothing can be wrong but the address for a page. -/
theorem receive_after (config : Config) (past : List MachineEvent) (handlers : Handlers η)
    (attempts : Nat) (library : LibraryState η) (va : Option Address) {id : EnvId}
    (running : (Machine.after config past).current = some id) :
    ∃ last, (receive va).execute handlers attempts ⟨library, Machine.after config past⟩ =
      some (((Kernel.resolveLanding (va.getD userTop)).map fun _ => ()).mapError .kernel,
        last) := by
  have coupled := Machine.coupled_after config past
  generalize Machine.after config past = machine at coupled running
  obtain ⟨slot, space, runs, -⟩ := coupled.runs_of_running running
  have parts : (receive va : Program η Unit) =
      tryCatch (Wrapper.receiveAt (va.getD userTop)).program _ := rfl
  rw [parts]
  generalize va.getD userTop = landing
  cases resolved : Kernel.resolveLanding landing with
  | ok accepted =>
    -- The caller is blocked, and to lose the processor is no failure.
    have lost : (machine.syscall .receive { first := landing }).1 = .error .descheduled :=
      runs.receive_lost resolved
    have waiting := (Wrapper.receiveAt landing).execute_of_syscall handlers attempts library
      (Prod.ext lost rfl)
    exact ⟨_, ends_tryCatch_iff.mpr (.inr ⟨_, _, waiting, ends_pure.mpr ⟨rfl, rfl⟩⟩)⟩
  | error error =>
    obtain ⟨next, refused, -⟩ : ∃ next, machine.syscall .receive { first := landing } =
        (.ok error.toWord, next) ∧ next.Proceeds slot space machine.kernel :=
      runs.receive_refused resolved
    have failing := (Wrapper.receiveAt landing).execute_of_syscall handlers attempts library
      refused
    rw [Wrapper.read, SysError.ofWord?_toWord] at failing
    exact ⟨_, ends_tryCatch_iff.mpr (.inr ⟨_, _, failing, ends_throw.mpr ⟨rfl, rfl⟩⟩)⟩

/-- The message that the running environment finds is the one in its mailbox. -/
theorem received_after (config : Config) (past : List MachineEvent) (handlers : Handlers η)
    (attempts : Nat) (library : LibraryState η) {id : EnvId}
    (running : (Machine.after config past).current = some id) : ∃ env last,
    (Machine.after config past).kernel.env? id = some env ∧
      received.execute handlers attempts ⟨library, Machine.after config past⟩ =
        some (.ok env.mailbox.message, last) := by
  have coupled := Machine.coupled_after config past
  generalize Machine.after config past = machine at coupled running
  obtain ⟨slot, space, runs, rfl⟩ := coupled.runs_of_running running
  have begun : (⟨library, machine⟩ : UserState η Machine).cpu.Runs slot space := runs
  obtain ⟨info, after, asked, stays, -, rfl⟩ := ends_ownInfo_of handlers attempts begun
  -- The mailbox is part of the profile, which asking does not change.
  have mailbox := Kernel.mailbox_of_profile stays.profile_eq slot
  have read : received.execute handlers attempts ⟨library, machine⟩ = some (.ok
      (after.cpu.kernel.envAt slot).mailbox.message, after) :=
    asked.bind_iff.mpr (ends_pure.mpr ⟨rfl, rfl⟩)
  exact ⟨machine.kernel.envAt slot, after, runs.env?_eq, mailbox ▸ read⟩

end Program

end Exokernel
