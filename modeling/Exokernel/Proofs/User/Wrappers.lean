import Exokernel.Proofs.Kernel.Answers
import Exokernel.Proofs.PageCalls
import Exokernel.Proofs.User.Programs
import Exokernel.User.Policy

/-! What the kernel has for a caller reaches it through the result register and the user library. -/

namespace Exokernel

/-- A result that is small enough reads as no error, and a larger one as some error. -/
theorem SysError.ofWord?_eq_none_iff {word : Word} :
    ofWord? word = none ↔ word.toNat < 2147483648 := by
  have same : word < 0x80000000 ↔ word.toNat < 2147483648 := UInt32.lt_iff_toNat_lt
  rw [← same, ofWord?]
  split
  · rename_i small
    exact ⟨fun _ => small, fun _ => rfl⟩
  · rename_i large
    -- A word that is no known error reads as one all the same.
    refine ⟨fun none => ?_, fun small => absurd small large⟩
    split at none <;> simp at none

/-- The system calls as the user library offers them, by the type of what they give. -/
inductive Wrapper : Type → Type where
  | writeConsole (va length : Word) : Wrapper Unit
  | readConsole : Wrapper (Option UInt8)
  | currentEnv : Wrapper EnvId
  | destroyEnv (env : EnvId) : Wrapper Unit
  | yield : Wrapper Unit
  | forkEnv : Wrapper EnvId
  | setStatus (env : EnvId) (status : Status) : Wrapper Unit
  | setFaultEntry (env : EnvId) (entry : Address) : Wrapper Unit
  | allocPage (env : EnvId) (va : Address) (flags : PageFlags) : Wrapper Unit
  | mapPage (source : EnvId) (sourceVa : Address) (target : EnvId) (targetVa : Address)
      (flags : PageFlags) : Wrapper Unit
  | unmapPage (env : EnvId) (va : Address) : Wrapper Unit
  | trySend (env : EnvId) (value : Word) (va : Address) (flags : PageFlags) : Wrapper Bool
  | receiveAt (va : Address) : Wrapper Unit
  | time : Wrapper Word

namespace Wrapper

variable {η α : Type}

/-- What the library runs. -/
def program : Wrapper α → Program η α
  -- Each is the function of the library by that name, with its arguments.
  | writeConsole va length => .writeConsole va length
  | readConsole => .readConsole
  | currentEnv => .currentEnv
  | destroyEnv env => .destroyEnv env
  | yield => .yield
  | forkEnv => .forkEnv
  | setStatus env status => .setStatus env status
  | setFaultEntry env entry => .setFaultEntry env entry
  | allocPage env va flags => .allocPage env va flags
  | mapPage source sourceVa target targetVa flags => .mapPage source sourceVa target targetVa flags
  | unmapPage env va => .unmapPage env va
  | trySend env value va flags => .trySend env value va flags
  | receiveAt va => .receiveAt va
  | time => .time

/-- The system call that is made. -/
def call : Wrapper α → Syscall
  -- Each makes one call, of the same name.
  | writeConsole _ _ => .writeConsole
  | readConsole => .readConsole
  | currentEnv => .currentEnv
  | destroyEnv _ => .destroyEnv
  | yield => .yield
  | forkEnv => .fork
  | setStatus _ _ => .setStatus
  | setFaultEntry _ _ => .setFaultEntry
  | allocPage _ _ _ => .allocPage
  | mapPage _ _ _ _ _ => .mapPage
  | unmapPage _ _ => .unmapPage
  | trySend _ _ _ _ => .trySend
  | receiveAt _ => .receive
  | time => .time

/-- The arguments of the system call. -/
def words : Wrapper α → Arguments
  -- They are put in the order in which the kernel reads them.
  | writeConsole va length => { first := va, second := length }
  | destroyEnv env => { first := env.raw }
  | setStatus env status => { first := env.raw, second := status.toWord }
  | setFaultEntry env entry => { first := env.raw, second := entry }
  | allocPage env va flags => { first := env.raw, second := va, third := flags.bits }
  | mapPage source sourceVa target targetVa flags =>
    { first := source.raw, second := sourceVa, third := target.raw, fourth := targetVa
      fifth := flags.bits }
  | unmapPage env va => { first := env.raw, second := va }
  | trySend env value va flags =>
    { first := env.raw, second := value, third := va, fourth := flags.bits }
  | receiveAt va => { first := va }
  | readConsole | currentEnv | yield | forkEnv | time => {}

/-- What a value of the kernel means to the caller. -/
def decode : Wrapper α → Word → α
  -- What is left to the caller is the register, seen as one of its own types.
  | readConsole, word => if word = 0 then none else some word.toUInt8
  | currentEnv, word | forkEnv, word => ⟨word⟩
  | trySend _ _ _ _, word => word == 1
  | time, word => word
  | writeConsole _ _, _ | destroyEnv _, _ | yield, _ | setStatus _ _, _ | setFaultEntry _ _, _
  | allocPage _ _ _, _ | mapPage _ _ _ _ _, _ | unmapPage _ _, _ | receiveAt _, _ => ()

/-- What the library makes of the outcome of the system call instruction. -/
def read (wrapper : Wrapper α) : Except Trapped Word → Except UserError α
  -- Errors are told from values by the sign of the word.
  | .error _ => .error .descheduled
  | .ok word =>
    match SysError.ofWord? word with
    | some error => .error (.kernel error)
    | none => .ok (wrapper.decode word)

/-- A wrapper makes its system call once, and reads what comes back. -/
theorem program_eq (wrapper : Wrapper α) :
    (wrapper.program : Program η α) =
      wrapper.decode <$> Program.call wrapper.call wrapper.words := by
  -- All but one read the word that comes back, if only to forget it.
  rw [map_eq_pure_bind]
  cases wrapper with
  | time => exact (bind_pure _).symm
  | _ => rfl

/-- A wrapper always comes to an end, with what it reads out of its one system call. -/
theorem execute_program {σ : Type} [Cpu σ] (handlers : Handlers η) (attempts : Nat)
    (wrapper : Wrapper α) (state : UserState η σ) :
    wrapper.program.execute handlers attempts state =
      some (wrapper.read (Cpu.syscall state.cpu wrapper.call wrapper.words).1,
        { state with cpu := (Cpu.syscall state.cpu wrapper.call wrapper.words).2 }) := by
  have replied : Request.reply (serveAccess handlers attempts)
      (.syscall wrapper.call wrapper.words) state =
        some ((Cpu.syscall state.cpu wrapper.call wrapper.words).1,
          { state with cpu := (Cpu.syscall state.cpu wrapper.call wrapper.words).2 }) := rfl
  rw [program_eq, map_eq_pure_bind]
  show Program.Ends _ _ _ _ _
  generalize (Cpu.syscall state.cpu wrapper.call wrapper.words).1 = outcome at replied ⊢
  generalize { state with cpu := _ } = next at replied ⊢
  have asked := Program.ends_ask.mpr replied
  -- The call does not come back, reports an error, or has a value to be read.
  cases outcome with
  | error trapped =>
    refine Program.ends_bind_iff.mpr (.inr ⟨.descheduled, rfl, ?_⟩)
    exact Program.ends_bind_iff.mpr (.inl ⟨_, _, asked, Program.ends_throw.mpr ⟨rfl, rfl⟩⟩)
  | ok word =>
    cases meaning : SysError.ofWord? word with
    | some error =>
      simp only [read, meaning]
      refine Program.ends_bind_iff.mpr (.inr ⟨.kernel error, rfl, ?_⟩)
      refine Program.ends_bind_iff.mpr (.inl ⟨_, _, asked, ?_⟩)
      simp only [meaning]
      exact Program.ends_throw.mpr ⟨rfl, rfl⟩
    | none =>
      simp only [read, meaning]
      refine Program.ends_bind.mpr ⟨word, next, Program.ends_call.mpr ⟨replied, meaning⟩, ?_⟩
      exact Program.ends_pure.mpr ⟨rfl, rfl⟩

/-- An error of the kernel is read from a word that means it. -/
theorem read_eq_kernel {wrapper : Wrapper α} {outcome : Except Trapped Word}
    {error : SysError} : wrapper.read outcome = .error (.kernel error) ↔
      ∃ word, outcome = .ok word ∧ SysError.ofWord? word = some error := by
  -- Without a word the failure is another one.
  cases outcome with
  | error trapped => simp [read]
  | ok word => cases meaning : SysError.ofWord? word <;> simp [read, meaning]

/-- A success is read from a word. -/
theorem ok_of_read {wrapper : Wrapper α} {outcome : Except Trapped Word}
    {value : α} (success : wrapper.read outcome = .ok value) : ∃ word, outcome = .ok word := by
  -- Without a word there is only failure.
  cases outcome with
  | error trapped => simp [read] at success
  | ok word => exact ⟨word, rfl⟩

/-- On a machine a wrapper gives what its system call does. -/
theorem execute_of_syscall (wrapper : Wrapper α) (handlers : Handlers η)
    (attempts : Nat) (library : LibraryState η) {machine next : Machine}
    {outcome : Except Trapped Word}
    (answered : machine.syscall wrapper.call wrapper.words = (outcome, next)) :
    wrapper.program.execute handlers attempts ⟨library, machine⟩ =
      some (wrapper.read outcome, ⟨library, next⟩) := by
  -- The library's own state has no part in a system call.
  rw [wrapper.execute_program]
  show some (wrapper.read (machine.syscall wrapper.call wrapper.words).1,
    (⟨library, (machine.syscall wrapper.call wrapper.words).2⟩ : UserState η Machine)) = _
  rw [answered]

end Wrapper

namespace Machine

variable {machine : Machine} {slot : Slot} {space : SpaceHandle} {call : Syscall}
  {words : Arguments}

/--
What the kernel has for the running environment in a system call, a value or an error, unless the
processor is given away.
-/
def result? (machine : Machine) (call : Syscall) (words : Arguments) :
    Option (Except SysError Word) :=
  machine.kernel.current.bind fun slot => (machine.calling slot call words).result? call words

/-- Without an environment that runs there is no system call. -/
theorem syscall_of_current_none (call : Syscall) (words : Arguments)
    (nobody : machine.current = none) :
    (machine.syscall call words).1 = .error .descheduled := by
  -- A processor that runs somebody has a current environment.
  unfold Machine.syscall
  split
  · rename_i id frame running
    simp [Machine.current, running] at nobody
  · rfl

/-- Whoever has not got the processor after a call does not learn its answer. -/
theorem Runs.syscall_of_lost (runs : machine.Runs slot space)
    (lost : (machine.syscall call words).2.current ≠ machine.current) :
    (machine.syscall call words).1 = .error .descheduled := by
  -- Another environment runs then, or none at all.
  rw [runs.current] at lost
  simp only [Machine.syscall, runs.cpu_eq] at lost ⊢
  split
  · rename_i other frame running
    split
    · rename_i same
      simp [running, same, Machine.current] at lost
    · rfl
  · rfl

/-- A caller that still has the processor finds its result in the register that was saved for it. -/
theorem Runs.syscall_of_ends (runs : machine.Runs slot space) {last : Kernel}
    (consistent : last.Consistent)
    (ends : last.Ends (machine.kernel.trap (called (machine.frame?.getD {}) call words) 0))
    (keeps : (machine.syscall call words).2.current = machine.current) :
    (last.envAt slot).isRunnable = true ∧
      (machine.syscall call words).1 = .ok (last.envAt slot).frame.context.regs.eax := by
  have next := runs.syscall_snd call words
  rw [next, runs.current] at keeps
  generalize machine.kernel.trap _ _ = outcome at ends keeps next
  cases ends with
  | resume chosen ready =>
    have named : (last.envAt chosen).id = (machine.kernel.envAt slot).id := Option.some.inj keeps
    -- Ids lead back to their slots, so that it is the same slot.
    have home := consistent.envs.slot_id (Env.isLive_of_isRunnable ready)
    have here : chosen = slot := by
      rw [← home, ← runs.slot_id]
      exact congrArg EnvId.slot named
    subst here
    exact ⟨ready, runs.syscall_of_cpu (by rw [next, ← named]; rfl)⟩
  | idle => simp [apply, Machine.current] at keeps

/-- A caller that still has the processor finds there what the kernel had for it. -/
theorem Runs.syscall_of_keeps (runs : machine.Runs slot space)
    (keeps : (machine.syscall call words).2.current = machine.current) :
    (machine.syscall call words).1 =
      .ok (((machine.result? call words).map SysError.encodeResult).getD 0) := by
  have user : (called (machine.frame?.getD {}) call words).fromUser = true := runs.fromUser
  have request := requests_called (machine.frame?.getD {}) call words
  obtain ⟨begun, owns, ready⟩ := runs.coupled.settled.saved user runs.owns
  have completes : Kernel.Completes (machine.calling slot call words) slot
      (called (machine.frame?.getD {}) call words) 0
      ((machine.calling slot call words).perform call words) :=
    Kernel.completes_perform owns request
  have encodes := (machine.calling slot call words).encodes_perform call words
  rw [result?, runs.owns, Option.bind_some]
  cases performed : (machine.calling slot call words).perform call words with
  | mk control acted =>
    rw [performed] at encodes completes
    cases completes with
    | answer effect =>
      -- The answer is in the register once the caller goes on.
      rename_i value
      obtain ⟨result, came, rfl⟩ := encodes.stay
      have last := (begun.effect owns ready effect).answered (some (SysError.encodeResult result))
      have ends := Kernel.ends_goOn (acted.withResult (SysError.encodeResult result))
      rw [← Kernel.trap_request user runs.owns request 0 performed] at ends
      obtain ⟨-, found⟩ := runs.syscall_of_ends last ends keeps
      rw [found, came, Kernel.answered,
        Kernel.envAt_withResult (Kernel.current_of_answer owns effect)]
      rfl
    | exit chosen =>
      -- Whoever is destroyed does not go on.
      have entry := Kernel.trap_request_leave user runs.owns request 0 performed
      have exits : (machine.calling slot call words).Effect slot
          (called (machine.frame?.getD {}) call words) 0 _ none := .exit
      obtain ⟨alive, -⟩ := runs.syscall_of_ends (begun.effect owns ready exits)
        (by rw [entry, Prod.mk.eta, chosen]; exact Kernel.ends_reschedule _) keeps
      have gone : (((machine.calling slot call words).freeEnv slot).envAt slot).isRunnable =
          false := by
        rw [Kernel.envAt_freeEnv, if_pos rfl]
        rfl
      exact absurd (gone.symm.trans alive) Bool.false_ne_true
    | pause chosen =>
      -- The caller has set its answer to zero before it was chosen again.
      have entry := Kernel.trap_request_leave user runs.owns request 0 performed
      have last := begun.answered (some 0)
      obtain ⟨-, found⟩ := runs.syscall_of_ends last
        (by rw [entry, Prod.mk.eta, chosen]; exact Kernel.ends_reschedule _) keeps
      rw [found, encodes.leave, Kernel.answered, Kernel.envAt_withResult owns]
      rfl

end Machine

section Faithful

variable {η : Type}

/-- A wrapper ends with a result, and its caller still has the processor. -/
def Wrapper.Gives {α : Type} (wrapper : Wrapper α) (handlers : Handlers η) (attempts : Nat)
    (state : UserState η Machine) (result : Except UserError α) : Prop :=
  -- The caller could have lost the processor in the call, or gone with it.
  ∃ next, wrapper.program.execute handlers attempts state = some (result, next) ∧
    next.cpu.current = state.cpu.current

/-- What the kernel has for a caller is what the user library gives to it. -/
structure Faithful (handlers : Handlers η) (attempts : Nat) (state : UserState η Machine) :
    Prop where
  /-- Every wrapper comes to an end. -/
  ends : ∀ {α : Type} (wrapper : Wrapper α),
    (wrapper.program.execute handlers attempts state).isSome = true
  /-- A value comes through, if it is not a time that is too large. -/
  value : ∀ {α : Type} (wrapper : Wrapper α) (result : Except UserError α) (value : Word),
    wrapper.Gives handlers attempts state result →
    state.cpu.result? wrapper.call wrapper.words = some (.ok value) →
    (wrapper.call = .time → value.toNat < 2147483648) → result = .ok (wrapper.decode value)
  /-- An error comes through. -/
  error : ∀ {α : Type} (wrapper : Wrapper α) (result : Except UserError α) (error : SysError),
    wrapper.Gives handlers attempts state result →
    state.cpu.result? wrapper.call wrapper.words = some (.error error) →
    result = .error (.kernel error)
  /-- A caller that has given the processor away and has it again finds success. -/
  again : ∀ {α : Type} (wrapper : Wrapper α) (result : Except UserError α),
    wrapper.Gives handlers attempts state result →
    state.cpu.result? wrapper.call wrapper.words = none → result = .ok (wrapper.decode 0)
  /-- The time is a number of milliseconds, as long as it is not too large. -/
  time : state.cpu.kernel.clock.milliseconds.toNat < 2147483648 →
    Wrapper.time.Gives handlers attempts state (.ok (.ofNat
      (state.cpu.kernel.clock.ticks.toNat * state.cpu.kernel.clock.period.toNat)))
  /-- A time that is too large is taken for an error. -/
  late : 2147483648 ≤ state.cpu.kernel.clock.milliseconds.toNat → ∃ error,
    SysError.ofWord? state.cpu.kernel.clock.milliseconds = some error ∧
    Wrapper.time.Gives handlers attempts state (.error (.kernel error))

namespace Machine.Runs

variable {machine : Machine} {slot : Slot} {space : SpaceHandle} {handlers : Handlers η}
  {attempts : Nat} {library : LibraryState η}

/-- What a wrapper gives is read from the word that the kernel has for the caller. -/
theorem result_of_gives (runs : machine.Runs slot space) {α : Type} {wrapper : Wrapper α}
    {result : Except UserError α}
    (gives : wrapper.Gives handlers attempts ⟨library, machine⟩ result) :
    result = wrapper.read (.ok (((machine.result? wrapper.call wrapper.words).map
      SysError.encodeResult).getD 0)) := by
  -- The wrapper's run is one call, read as the library reads it.
  obtain ⟨next, executed, keeps⟩ := gives
  rw [wrapper.execute_program, Option.some.injEq, Prod.mk.injEq] at executed
  obtain ⟨rfl, rfl⟩ := executed
  exact congrArg wrapper.read (runs.syscall_of_keeps keeps)

/-- Asking for the time never costs the processor. -/
theorem gives_time (runs : machine.Runs slot space) (handlers : Handlers η) (attempts : Nat)
    (library : LibraryState η) : Wrapper.time.Gives handlers attempts ⟨library, machine⟩
      (Wrapper.time.read (.ok machine.kernel.clock.milliseconds)) := by
  have performed : (machine.calling slot .time {}).perform .time {} =
      (.stay machine.kernel.clock.milliseconds, machine.calling slot .time {}) := rfl
  have named : ((machine.calling slot .time {}).envAt slot).id =
      (machine.kernel.envAt slot).id := by
    rw [calling, Kernel.envAt_saved, if_pos rfl]
  -- The call is answered out of the clock, and the processor stays with the caller.
  have answered := runs.answers performed runs.owns (runs.ready_calling _ _) named
  refine ⟨_, Wrapper.time.execute_of_syscall handlers attempts library answered, ?_⟩
  rw [runs.current, ← named]
  rfl

/-- Whoever runs is told what the kernel has for it. -/
theorem faithful (runs : machine.Runs slot space) :
    Faithful handlers attempts ⟨library, machine⟩ where
  ends wrapper := by
    rw [wrapper.execute_program]
    rfl
  value wrapper result value gives came small := by
    -- Only the time may be as large as an error.
    have bound : value.toNat < 2147483648 := by
      by_cases timed : wrapper.call = .time
      · exact small timed
      · have named := came
        rw [result?, runs.owns, Option.bind_some] at named
        exact (runs.consistent_calling _ _).value_lt runs.owns named timed
    rw [runs.result_of_gives gives, came]
    simp [Wrapper.read, SysError.encodeResult, SysError.ofWord?_eq_none_iff.mpr bound]
  error wrapper result error gives came := by
    rw [runs.result_of_gives gives, came]
    simp [Wrapper.read, SysError.encodeResult]
  again wrapper result gives gave := by
    rw [runs.result_of_gives gives, gave]
    rfl
  time small := by
    have gives := runs.gives_time handlers attempts library
    have fine := SysError.ofWord?_eq_none_iff.mpr small
    -- As long as it is small, the product does not overflow.
    have same : machine.kernel.clock.milliseconds =
        .ofNat (machine.kernel.clock.ticks.toNat * machine.kernel.clock.period.toNat) := by
      rw [← UInt32.toNat_inj, Clock.toNat_milliseconds, UInt32.toNat_ofNat']
    simp only [Wrapper.read, fine] at gives
    rw [← same]
    exact gives
  late large := by
    have gives := runs.gives_time handlers attempts library
    -- A time that is too large reads as an error, which is passed on.
    cases reads : SysError.ofWord? machine.kernel.clock.milliseconds with
    | none => exact absurd (SysError.ofWord?_eq_none_iff.mp reads) (not_lt.mpr large)
    | some error =>
      simp only [Wrapper.read, reads] at gives
      exact ⟨error, rfl, gives⟩

end Machine.Runs

/--
In every state of a machine, with whatever is typed at its console, the running environment is told
by the user library what the kernel has for it. The one exception is a time that needs the highest
bit of a register: it is told as an error.
-/
theorem faithful_after (config : Config) (past : List MachineEvent) (handlers : Handlers η)
    (attempts : Nat) (library : LibraryState η) {id : EnvId}
    (running : (Machine.after config past).current = some id) :
    Faithful handlers attempts ⟨library, Machine.after config past⟩ := by
  -- What holds of every running environment holds of this one.
  obtain ⟨slot, space, runs, -⟩ := (Machine.coupled_after config past).runs_of_running running
  exact runs.faithful

/--
Three environments, one tick of the timer, which gives the processor to the last of them, and a
letter that is typed.
-/
def ticked : List MachineEvent :=
  [.create ⟨0, []⟩, .create ⟨0, []⟩, .create ⟨0, []⟩, .boot, .interrupt TrapVector.timerLine,
    .typed [113]]

/--
The letter that was typed is told. With ticks of twenty-five days the first of them is too long to
tell.
-/
theorem faithful_ticked :
    (Machine.after { frames := 16, period := 0x80000000 } ticked).current = some ⟨4098⟩ ∧
    Wrapper.readConsole.Gives FaultPolicy.handlers 1
      ⟨{}, Machine.after { frames := 16, period := 0x80000000 } ticked⟩ (.ok (some 113)) ∧
    (Machine.after { frames := 16, period := 0x80000000 } ticked).kernel.clock.milliseconds =
      0x80000000 ∧
    Wrapper.time.Gives FaultPolicy.handlers 1
      ⟨{}, Machine.after { frames := 16, period := 0x80000000 } ticked⟩
      (.error (.kernel .unspecified)) := by
  have running : (Machine.after { frames := 16, period := 0x80000000 } ticked).current =
      some ⟨4098⟩ := by decide +kernel
  have time : (Machine.after { frames := 16, period := 0x80000000 }
      ticked).kernel.clock.milliseconds = 0x80000000 := by decide +kernel
  have typed : (Machine.after { frames := 16, period := 0x80000000 } ticked).result?
      .readConsole {} = some (.ok 113) := by decide +kernel
  have keeps : ((Machine.after { frames := 16, period := 0x80000000 } ticked).syscall
      .readConsole {}).2.current = some ⟨4098⟩ := by decide +kernel
  have faithful := faithful_after { frames := 16, period := 0x80000000 } ticked
    FaultPolicy.handlers 1 {} running
  generalize Machine.after { frames := 16, period := 0x80000000 } ticked = machine at *
  -- The caller keeps the processor, so that it is told what the kernel has.
  obtain ⟨result, told⟩ : ∃ result,
      Wrapper.readConsole.Gives FaultPolicy.handlers 1 ⟨{}, machine⟩ result :=
    ⟨_, _, Wrapper.execute_program _ _ _ _, keeps.trans running.symm⟩
  obtain rfl := faithful.value .readConsole result 113 told typed nofun
  -- The time of the first tick lies in the range of the errors.
  obtain ⟨error, reads, gives⟩ := faithful.late (time ▸ by decide)
  have word : SysError.ofWord? machine.kernel.clock.milliseconds = some .unspecified := by
    rw [time]
    decide
  obtain rfl := Option.some.inj (word.symm.trans reads)
  exact ⟨running, told, time, gives⟩

end Faithful

end Exokernel
