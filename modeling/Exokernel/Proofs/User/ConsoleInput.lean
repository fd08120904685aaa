import Exokernel.Proofs.User.Wrappers

/-! Bytes that are typed at the console reach the running environment once and in order. -/

namespace Exokernel

/-- Something that happens at the console while one environment reads from it. -/
inductive ConsoleEvent where
  /-- Bytes are typed. -/
  | typed (bytes : List UInt8)
  /-- The environment asks for a byte. -/
  | read

/-- Everything that is typed in a row of events. -/
def ConsoleEvent.stream : List ConsoleEvent → List UInt8
  -- Reads add nothing to what is typed.
  | [] => []
  | typed bytes :: rest => bytes ++ stream rest
  | read :: rest => stream rest

namespace Machine

/-- Bytes that were typed and not read yet, the oldest first. -/
def pending (machine : Machine) : List UInt8 :=
  machine.kernel.console.pending

variable {machine : Machine} {slot : Slot} {space : SpaceHandle}

/-- Whoever runs goes on running while bytes are typed. -/
theorem Runs.typed (runs : machine.Runs slot space) (bytes : List UInt8) :
    (machine.typed bytes).Runs slot space :=
  ⟨runs.coupled.typed bytes, runs.owns, runs.held⟩

/-- A reader is told the oldest byte that waits, and a zero as if there was none. -/
def heard (machine : Machine) : Option UInt8 :=
  -- In a register the word zero stands for both.
  machine.pending.head?.filter (· ≠ 0)

/-- The word for the oldest byte means this byte, unless it is a zero. -/
theorem decode_read (console : Console) :
    Wrapper.readConsole.read (.ok ((console.read.1.map UInt8.toUInt32).getD 0)) =
      .ok (console.pending.head?.filter (· ≠ 0)) := by
  cases waiting : console.pending with
  | nil => simp [Console.read, waiting, Wrapper.read, Wrapper.decode, SysError.ofWord?]
  | cons byte rest =>
    -- A byte is too small to be taken for an error.
    have small : SysError.ofWord? byte.toUInt32 = none := by
      have bound := byte.toNat_lt
      rw [SysError.ofWord?_eq_none_iff, UInt8.toNat_toUInt32]
      omega
    have zero : byte.toUInt32 = 0 ↔ byte = 0 := by
      rw [← UInt32.toNat_inj, ← UInt8.toNat_inj, UInt8.toNat_toUInt32]
      rfl
    have back : byte.toUInt32.toUInt8 = byte := by simp
    simp only [Console.read, waiting, Option.map_some, Option.getD_some, Wrapper.read, small,
      Wrapper.decode, zero, back, List.head?_cons, Option.filter_some]
    by_cases none : byte = 0 <;> simp [none]

/-- A caller that goes on with its answer finds the console as its call has left it. -/
theorem Runs.syscall_console (runs : machine.Runs slot space) (call : Syscall) (words : Arguments)
    {value : Word} {acted : Kernel}
    (performed : (machine.calling slot call words).perform call words = (.stay value, acted))
    (owns : acted.current = some slot) (ready : (acted.envAt slot).isRunnable = true)
    (outlines : acted.outline slot = (machine.calling slot call words).outline slot) :
    ∃ next, machine.syscall call words = (.ok value, next) ∧ next.Runs slot space ∧
      next.current = machine.current ∧ next.kernel.console = acted.console := by
  have outlined := outlines.trans (congrFun (runs.outline_calling call words) slot)
  have named : (acted.envAt slot).id = (machine.kernel.envAt slot).id :=
    (congrArg Outline.id outlined).trans (machine.outline_id slot)
  obtain ⟨next, called, again, -, -⟩ := runs.syscall_eq performed owns ready outlines
  have answered := runs.answers performed owns ready named
  rw [called] at answered
  -- Its answer is saved and it is dispatched again; neither concerns the console.
  obtain rfl := (Prod.mk.inj answered).2
  refine ⟨_, called, again, ?_, ?_⟩
  · rw [runs.current, ← named]
    rfl
  · show (acted.withResult value).console = acted.console
    unfold Kernel.withResult
    split <;> rfl

end Machine

section Reading

variable {η : Type} {machine : Machine} {slot : Slot} {space : SpaceHandle}

/-- A read takes the oldest byte away, and costs nobody the processor. -/
theorem Machine.Runs.execute_readConsole (runs : machine.Runs slot space) (handlers : Handlers η)
    (attempts : Nat) (library : LibraryState η) :
    ∃ next, Program.readConsole.execute handlers attempts ⟨library, machine⟩ =
        some (.ok machine.heard, ⟨library, next⟩) ∧
      next.Runs slot space ∧ next.current = machine.current ∧
      next.pending = machine.pending.tail := by
  obtain ⟨next, called, again, current, console⟩ :=
    runs.syscall_console .readConsole {} rfl runs.owns (runs.ready_calling _ _) rfl
  have executed := Wrapper.readConsole.execute_program handlers attempts
    (⟨library, machine⟩ : UserState η Machine)
  have answers := decode_read machine.kernel.console
  -- The library reads the word that the call leaves, and the call is what takes the byte.
  refine ⟨next, ?_, again, current, ?_⟩
  · show Wrapper.readConsole.program.execute handlers attempts _ = _
    rw [executed]
    show some (Wrapper.readConsole.read (machine.syscall .readConsole {}).1,
      (⟨library, (machine.syscall .readConsole {}).2⟩ : UserState η Machine)) = _
    rw [called]
    exact congrArg (fun answer => some (answer, _)) answers
  · rw [Machine.pending, console]
    show machine.kernel.console.read.2.pending = machine.kernel.console.pending.tail
    cases waiting : machine.kernel.console.pending <;> simp [Console.read, waiting]

/--
A row of console events, with the answers of the reads in order. The environment reads through the
user library.
-/
def converse (handlers : Handlers η) (attempts : Nat) : List ConsoleEvent → UserState η Machine →
    Option (List (Except UserError (Option UInt8)) × UserState η Machine)
  | [], state => some ([], state)
  -- Typing is nothing that the environment does.
  | .typed bytes :: rest, state =>
    converse handlers attempts rest { state with cpu := state.cpu.typed bytes }
  | .read :: rest, state => do
    let (answer, state) ← Program.readConsole.execute handlers attempts state
    let (answers, state) ← converse handlers attempts rest state
    some (answer :: answers, state)

/-- Whatever is typed is taken once and in order, and only the zeros among it are not told. -/
theorem Machine.Runs.converse_eq (handlers : Handlers η) (attempts : Nat) (library : LibraryState η)
    (events : List ConsoleEvent) : ∀ {machine : Machine}, machine.Runs slot space →
      ∃ (answers : List (Option UInt8)) (taken : List UInt8) (last : Machine),
        converse handlers attempts events ⟨library, machine⟩ =
          some (answers.map .ok, ⟨library, last⟩) ∧
        last.Runs slot space ∧ last.current = machine.current ∧
        machine.pending ++ ConsoleEvent.stream events = taken ++ last.pending ∧
        answers.reduceOption = taken.filter (· ≠ 0) := by
  -- Induct on the events; what was taken and what waits are all that was typed.
  induction events with
  | nil => exact fun runs => ⟨[], [], _, rfl, runs, rfl, by simp [ConsoleEvent.stream], rfl⟩
  | cons event rest ih =>
    intro machine runs
    cases event with
    | typed bytes =>
      -- What is typed joins the end of what waits, in front of everything that is typed later.
      obtain ⟨answers, taken, last, conversed, again, current, parts, told⟩ := ih (runs.typed bytes)
      refine ⟨answers, taken, last, conversed, again, current, ?_, told⟩
      rw [← parts]
      simp [ConsoleEvent.stream, Machine.pending, Machine.typed, Console.pushInput]
    | read =>
      -- The byte that waits first is the first one that is taken, if there is one.
      obtain ⟨next, executed, runs', same, left⟩ :=
        runs.execute_readConsole handlers attempts library
      obtain ⟨answers, taken, last, conversed, again, current, parts, told⟩ := ih runs'
      refine ⟨machine.heard :: answers, machine.pending.head?.toList ++ taken, last, ?_, again,
        current.trans same, ?_, ?_⟩
      · simp [converse, executed, conversed]
      · rw [List.append_assoc, ← parts, left, ← List.append_assoc]
        cases machine.pending <;> rfl
      · rw [Machine.heard, List.filter_append, ← told]
        cases machine.pending with
        | nil => rfl
        | cons byte waiting =>
          by_cases zero : byte = 0 <;> simp [zero, List.reduceOption, Option.filter_some]

/--
What an environment has heard in the end, of everything that was typed, and what it is told next.
-/
structure Hears (handlers : Handlers η) (attempts : Nat) (stream : List UInt8)
    (answers : List (Option UInt8)) (last : UserState η Machine) : Prop where
  /-- Bytes were taken once and in order. Only the zeros among them were not told. -/
  taken : ∃ taken, stream = taken ++ last.cpu.pending ∧ answers.reduceOption = taken.filter (· ≠ 0)
  /-- If no zero was typed, then what was told is what was typed, up to what waits. -/
  told : 0 ∉ stream → stream = answers.reduceOption ++ last.cpu.pending
  /-- The next read ends, with nothing if nothing waits or a zero does. -/
  next : ∃ answer next, Program.readConsole.execute handlers attempts last =
    some (.ok answer, next) ∧ (answer = none ↔ ∀ byte ∈ last.cpu.pending.head?, byte = 0) ∧
    (0 ∉ stream → answer = none → last.cpu.pending = [])

/--
Whatever is typed is told to the running environment once and in order, however its reads and the
typing take turns. A zero that is typed is the exception: it is taken, and told as if nothing
waited.
-/
theorem consoleInput_after (config : Config) (past : List MachineEvent) (handlers : Handlers η)
    (attempts : Nat) (library : LibraryState η) (events : List ConsoleEvent) {id : EnvId}
    (running : (Machine.after config past).current = some id) :
    ∃ answers last, converse handlers attempts events ⟨library, Machine.after config past⟩ =
        some (answers.map .ok, last) ∧
      last.cpu.current = some id ∧
      Hears handlers attempts ((Machine.after config past).pending ++
        ConsoleEvent.stream events) answers last := by
  obtain ⟨slot, space, runs, -⟩ :=
    (Machine.coupled_after config past).runs_of_running running
  obtain ⟨answers, taken, last, conversed, again, current, parts, told⟩ :=
    runs.converse_eq handlers attempts library events
  obtain ⟨next, executed, -⟩ := again.execute_readConsole handlers attempts library
  refine ⟨answers, ⟨library, last⟩, conversed, current.trans running, ⟨taken, parts, told⟩, ?_,
    last.heard, _, executed, ?_, ?_⟩
  · -- Without zeros the filter has nothing to leave out.
    intro clean
    have kept : taken.filter (· ≠ 0) = taken := by
      rw [List.filter_eq_self]
      intro byte among
      rw [parts] at clean
      exact decide_eq_true fun zero => clean (List.mem_append_left _ (zero ▸ among))
    rw [told, kept, parts]
  · simp [Machine.heard, Option.filter_eq_none_iff]
  · -- A byte that waits and is not told is a zero, and came with the rest.
    intro clean silent
    rw [parts] at clean
    cases waiting : last.pending with
    | nil => rfl
    | cons byte rest =>
      simp only [Machine.heard, waiting, List.head?_cons, Option.filter_eq_none_iff] at silent
      have zero : byte = 0 := by simpa using silent byte rfl
      exact absurd (by simp [waiting, zero]) clean

/-- Two environments, the second of which runs, with a zero and a letter typed. -/
def zeroTyped : List MachineEvent :=
  [.create ⟨0, []⟩, .create ⟨0, []⟩, .boot, .typed [0, 65]]

/-- A zero that waits is told as if nothing waited. -/
theorem consoleInput_zeroTyped :
    (Machine.after { frames := 16 } zeroTyped).current = some ⟨4097⟩ ∧
    (Machine.after { frames := 16 } zeroTyped).pending = [0, 65] ∧
    ∃ next, Program.readConsole.execute FaultPolicy.handlers 1
      ⟨{}, Machine.after { frames := 16 } zeroTyped⟩ = some (.ok none, next) := by
  have running : (Machine.after { frames := 16 } zeroTyped).current = some ⟨4097⟩ := by
    decide +kernel
  have waiting : (Machine.after { frames := 16 } zeroTyped).pending = [0, 65] := by
    decide +kernel
  obtain ⟨answers, last, conversed, -, hears⟩ :=
    consoleInput_after { frames := 16 } zeroTyped FaultPolicy.handlers 1 {} [] running
  generalize Machine.after { frames := 16 } zeroTyped = machine at *
  obtain ⟨-, rfl⟩ := Prod.mk.inj (Option.some.inj conversed)
  obtain ⟨answer, next, executed, quiet, -⟩ := hears.next
  -- A byte is waiting, and yet the call says that there is none.
  have silent : answer = none := quiet.mpr (by simp [waiting])
  exact ⟨running, waiting, next, silent ▸ executed⟩

end Reading

end Exokernel
