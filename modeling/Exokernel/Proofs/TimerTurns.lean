import Exokernel.Proofs.Delivery
import Exokernel.Proofs.Kernel.RoundRobin
import Exokernel.Proofs.Reachable

/-! Timer interrupts hand the processor around, until anybody who can run has had it. -/

namespace Exokernel

namespace Kernel

variable {kernel next : Kernel} {slot chosen start : Slot}

/-- The choice of the next environment depends on who was dispatched last and on who can run. -/
theorem pickNext_congr (last : next.lastRun = kernel.lastRun)
    (ready : ∀ slot, (next.envAt slot).isRunnable = (kernel.envAt slot).isRunnable) :
    next.pickNext = kernel.pickNext := by
  -- Nothing else is looked at in the search.
  unfold pickNext
  simp only [last, ready]

/-- The way to a slot is made up of the way to one before it, and of the way from there on. -/
theorem turnsAfter_of_lt (before : turnsAfter start chosen < turnsAfter start slot) :
    turnsAfter start slot = turnsAfter start chosen + turnsAfter chosen slot + 1 := by
  -- Turns are differences modulo the number of slots.
  have begins : start.val < 1024 := start.isLt
  have middle : chosen.val < 1024 := chosen.isLt
  have ends : slot.val < 1024 := slot.isLt
  simp only [turnsAfter] at *
  omega

/-- Only the slot that the search starts behind is as far away as can be. -/
theorem turnsAfter_lt_of_ne (different : start ≠ slot) : turnsAfter start slot < 1023 := by
  -- Turns are differences modulo the number of slots.
  have begins : start.val < 1024 := start.isLt
  have ends : slot.val < 1024 := slot.isLt
  have apart : start.val ≠ slot.val := fun same => different (Fin.ext same)
  simp only [turnsAfter]
  omega

end Kernel

namespace Machine

variable {machine : Machine} {id env : EnvId} {slot : Slot}

/-- The timer passes the processor on to the next in turn, and changes nobody's profile. -/
theorem Coupled.turn (coupled : machine.Coupled) (runs : machine.current = some id) :
    ∃ chosen, machine.kernel.pickNext = some chosen ∧
      machine.timerInterrupt.kernel.lastRun = some chosen ∧
      machine.timerInterrupt.current = some (machine.kernel.envAt chosen).id ∧
      machine.timerInterrupt.kernel.profile = machine.kernel.profile := by
  have state := cpu_of_current runs
  obtain ⟨owner, owns, -⟩ := coupled.owner state
  generalize machine.frame?.getD {} = live at state
  have user : (interrupted live TrapVector.timerLine).fromUser = true :=
    coupled.userMode live (by simp [frame?, state])
  have kind : TrapKind.ofVector (interrupted live TrapVector.timerLine).vector = .timer := by
    show TrapKind.ofVector (TrapVector.irqBase + TrapVector.timerLine) = .timer
    decide
  have entry : machine.timerInterrupt = _ := step_interrupt state TrapVector.timerLine
  rw [Kernel.trap_timer user owns kind] at entry
  -- Neither the saved registers nor the clock have a part in the choice.
  have saved := machine.kernel.profile_saved owner (interrupted live TrapVector.timerLine)
  have last : (machine.kernel.saved owner (interrupted live TrapVector.timerLine)).lastRun =
      machine.kernel.lastRun := rfl
  generalize machine.kernel.saved owner (interrupted live TrapVector.timerLine) = base at *
  generalize base.clock.tick = clock at entry
  have same : ({ base with clock } : Kernel).pickNext = machine.kernel.pickNext :=
    Kernel.pickNext_congr last fun slot =>
      congrArg (· == Status.runnable) (Kernel.status_of_profile saved slot)
  cases picked : machine.kernel.pickNext with
  | none =>
    -- Whoever is running could at least go on.
    have exhausted := Kernel.not_isRunnable_of_pickNext picked owner
    rw [coupled.settled.ready owner owns] at exhausted
    simp at exhausted
  | some chosen =>
    -- The interrupt ends with the choice.
    rw [Kernel.reschedule_of_pickNext (same.trans picked)] at entry
    refine ⟨chosen, rfl, by rw [entry]; rfl, ?_, ?_⟩
    · rw [entry, ← Kernel.id_of_profile saved chosen]
      rfl
    · rw [entry]
      exact (Kernel.profile_dispatched _ chosen).trans saved

/-- However often the timer interrupts, somebody runs and nobody's profile changes. -/
theorem Coupled.turns (coupled : machine.Coupled) (runs : machine.current = some id)
    (count : Nat) : (Machine.timerInterrupt^[count] machine).Coupled ∧
      (∃ now, (Machine.timerInterrupt^[count] machine).current = some now) ∧
      (Machine.timerInterrupt^[count] machine).kernel.profile = machine.kernel.profile := by
  -- The induction is on the number of interrupts, with one turn for each.
  induction count with
  | zero => exact ⟨coupled, ⟨id, runs⟩, rfl⟩
  | succ count ih =>
    obtain ⟨coupled, ⟨now, runs⟩, same⟩ := ih
    obtain ⟨chosen, -, -, next, kept⟩ := coupled.turn runs
    rw [Function.iterate_succ_apply']
    exact ⟨coupled.step (.interrupt TrapVector.timerLine), ⟨_, next⟩, kept.trans same⟩

/-- A slot that can run gets the processor once the search has come around to it. -/
theorem Coupled.reaches (coupled : machine.Coupled) (runs : machine.current = some id)
    (busy : slot ≠ idleSlot) (ready : (machine.kernel.envAt slot).isRunnable = true) :
    ∃ count ≤ Kernel.turnsAfter machine.kernel.cursor slot + 1,
      (Machine.timerInterrupt^[count] machine).current = some (machine.kernel.envAt slot).id := by
  -- Induct on how many slots come before, some of which each interrupt leaves behind.
  induction turns : Kernel.turnsAfter machine.kernel.cursor slot using Nat.strong_induction_on
    generalizing machine id with
  | _ turns ih =>
    subst turns
    obtain ⟨chosen, picked, last, next, same⟩ := coupled.turn runs
    obtain ⟨-, le⟩ := Kernel.turnsAfter_le_of_pickNext picked busy ready
    by_cases here : chosen = slot
    · exact ⟨1, by omega, here ▸ next⟩
    · -- Somebody before it was chosen, so that fewer are left.
      have before := Kernel.turnsAfter_lt le here
      have whole := Kernel.turnsAfter_of_lt before
      have cursor : machine.timerInterrupt.kernel.cursor = chosen := by
        rw [Kernel.cursor, last, Option.getD_some]
      have still : (machine.timerInterrupt.kernel.envAt slot).isRunnable = true :=
        (congrArg (· == Status.runnable) (Kernel.status_of_profile same slot)).trans ready
      have later : machine.timerInterrupt.Coupled :=
        coupled.step (.interrupt TrapVector.timerLine)
      obtain ⟨count, bound, there⟩ := ih _ (by rw [cursor]; omega) later next still rfl
      refine ⟨count + 1, by rw [cursor] at bound; omega, ?_⟩
      rw [Function.iterate_succ_apply, ← Kernel.id_of_profile same slot]
      exact there

/-- An environment can be given the processor by the timer: it can run, and is not in slot zero. -/
def Schedulable (machine : Machine) (env : EnvId) : Prop :=
  env.slot ≠ idleSlot ∧ ∃ found, machine.kernel.env? env = some found ∧ found.status = .runnable

/-- Whoever has the processor after some interrupts had it before, or could be given it. -/
theorem Coupled.schedulable_of_reached (coupled : machine.Coupled)
    (runs : machine.current = some id)
    {count : Nat} (reached : (Machine.timerInterrupt^[count] machine).current = some env) :
    machine.current = some env ∨ machine.Schedulable env := by
  induction count with
  | zero => exact .inl reached
  | succ count ih =>
    obtain ⟨later, ⟨now, running⟩, same⟩ := coupled.turns runs count
    rw [Function.iterate_succ_apply'] at reached
    generalize Machine.timerInterrupt^[count] machine = middle at *
    obtain ⟨chosen, picked, -, next, -⟩ := later.turn running
    have named : (middle.kernel.envAt chosen).id = env :=
      Option.some.inj (next.symm.trans reached)
    have ready := Kernel.isRunnable_of_pickNext picked
    have home : env.slot = chosen := by
      rw [← named]
      exact later.settled.envs.slot_id (Env.isLive_of_isRunnable ready)
    by_cases idle : chosen = idleSlot
    · -- The idle environment is chosen only if nobody else can run, and so after itself.
      obtain ⟨owner, owns, own⟩ := later.owner (cpu_of_current running)
      have alone : owner = idleSlot := by
        by_contra busy
        exact (Kernel.turnsAfter_le_of_pickNext picked busy (later.settled.ready owner owns)).1 idle
      refine ih ?_
      rw [running, ← own, ← named, alone, idle]
    · -- Whoever else is chosen could have been scheduled from the start.
      refine .inr ⟨home ▸ idle, machine.kernel.envAt env.slot,
        Kernel.env?_eq_some.mpr ⟨rfl, ?_, ?_⟩, ?_⟩
      · rw [← Kernel.isLive_of_profile same, home]
        exact Env.isLive_of_isRunnable ready
      · rw [← Kernel.id_of_profile same, home, named]
      · rw [← Kernel.status_of_profile same, home]
        simpa [Env.isRunnable] using ready

/-- Interrupting until an environment runs ends with the first time that it does, or without. -/
theorem preempt_cases (running : ∀ count, (Machine.timerInterrupt^[count] machine).current ≠ none)
    (env : EnvId) (limit : Nat) :
    (∃ count ≤ limit, IsLeast {n | (Machine.timerInterrupt^[n] machine).current = some env} count ∧
        preempt env limit machine = (true, Machine.timerInterrupt^[count] machine)) ∨
      (∀ count ≤ limit, (Machine.timerInterrupt^[count] machine).current ≠ some env) ∧
        preempt env limit machine = (false, Machine.timerInterrupt^[limit] machine) := by
  -- Induct on the number of interrupts that are left; the machine is the one to go on with.
  induction limit generalizing machine with
  | zero =>
    by_cases here : machine.current = some env
    · exact .inl ⟨0, le_rfl, ⟨here, fun _ _ => Nat.zero_le _⟩, by simp [preempt, isRunning, here]⟩
    · refine .inr ⟨fun count none_ => ?_, by simp [preempt, isRunning, here]⟩
      rw [Nat.le_zero.mp none_]
      exact here
  | succ limit ih =>
    obtain ⟨now, runs⟩ := Option.ne_none_iff_exists'.mp (running 0)
    rw [Function.iterate_zero_apply] at runs
    by_cases here : now = env
    · subst here
      exact .inl ⟨0, Nat.zero_le _, ⟨runs, fun _ _ => Nat.zero_le _⟩, by simp [preempt, runs]⟩
    · have away : machine.current ≠ some env := by simpa [runs] using here
      -- One interrupt later there is one less to go.
      have goes : preempt env (limit + 1) machine = preempt env limit machine.timerInterrupt := by
        simp [preempt, runs, here]
      rw [goes]
      rcases ih fun count => running (count + 1) with
        ⟨count, inside, least, found⟩ | ⟨missed, lost⟩
      · refine .inl ⟨count + 1, by omega, ⟨least.1, fun other reached => ?_⟩, found⟩
        -- The environment is not running yet, and so the first time is a later one.
        cases other with
        | zero => exact absurd reached away
        | succ other => exact Nat.succ_le_succ (least.2 reached)
      · refine .inr ⟨fun count inside => ?_, lost⟩
        cases count with
        | zero => exact away
        | succ count => exact missed count (by omega)

/-- Preempting until an environment runs finds it if it can run, and disturbs nobody. -/
structure Preempts (machine : Machine) (env : EnvId) : Prop where
  /-- It succeeds if the environment is running, or can run and is not the idle one. -/
  found : (machine.preemptUntil env).1 = true ↔
    machine.current = some env ∨ machine.Schedulable env
  /-- Then the environment runs, for the first time since, and after at most one round. -/
  reached : (machine.preemptUntil env).1 = true →
    (machine.preemptUntil env).2.current = some env ∧ ∃ count ≤ 1023,
      IsLeast {n | (Machine.timerInterrupt^[n] machine).current = some env} count ∧
      (machine.preemptUntil env).2 = Machine.timerInterrupt^[count] machine
  /-- Otherwise it would not run after any number of interrupts. -/
  missed : (machine.preemptUntil env).1 = false →
    (∀ count, (Machine.timerInterrupt^[count] machine).current ≠ some env) ∧
      (machine.preemptUntil env).2 = Machine.timerInterrupt^[1025] machine
  /-- Nobody came, went or changed in status: only registers and counts of runs have changed. -/
  kept : (machine.preemptUntil env).2.kernel.profile = machine.kernel.profile

/-- Whoever can be given the processor gets it within one round. -/
theorem Coupled.reached_of_schedulable (coupled : machine.Coupled)
    (runs : machine.current = some id)
    (away : machine.current ≠ some env) (schedulable : machine.Schedulable env) :
    ∃ count ≤ 1023, (Machine.timerInterrupt^[count] machine).current = some env := by
  obtain ⟨busy, found, there, ready⟩ := schedulable
  obtain ⟨here, -, named⟩ := Kernel.env?_eq_some.mp there
  rw [← here] at ready named
  obtain ⟨owner, owns, own⟩ := coupled.owner (cpu_of_current runs)
  -- The search starts behind the environment that runs, which is another one.
  have cursor : machine.kernel.cursor = owner := by
    rw [Kernel.cursor, (coupled.settled.running owner owns).2.1, Option.getD_some]
  have apart : owner ≠ env.slot := by
    rintro rfl
    exact away (runs.trans (congrArg some (own.symm.trans named)))
  obtain ⟨count, bound, reached⟩ := coupled.reaches runs busy (by simp [Env.isRunnable, ready])
  have short := Kernel.turnsAfter_lt_of_ne apart
  rw [cursor] at bound
  exact ⟨count, by omega, reached.trans (congrArg some named)⟩

/-- Wherever a machine has got to, preempting finds every environment that can run. -/
theorem preempts_after (config : Config) (events : List MachineEvent) (running env : EnvId)
    (runs : (after config events).current = some running) :
    (after config events).Preempts env := by
  have coupled := coupled_after config events
  generalize after config events = machine at *
  have limit : slotCount + 1 = 1025 := rfl
  -- Whatever the number of interrupts, somebody is running.
  have going (count : Nat) : (Machine.timerInterrupt^[count] machine).current ≠ none := by
    obtain ⟨-, ⟨now, same⟩, -⟩ := coupled.turns runs count
    simp [same]
  rcases preempt_cases going env (slotCount + 1) with
    ⟨count, inside, least, outcome⟩ | ⟨missed, outcome⟩
  · rw [← preemptUntil] at outcome
    -- The environment has its turn, so that it could be scheduled.
    have origin := coupled.schedulable_of_reached runs least.1
    constructor
    · exact iff_of_true (by rw [outcome]) origin
    · rw [outcome]
      refine fun _ => ⟨least.1, count, ?_, least, rfl⟩
      -- The first time is no later than the time that is known.
      by_cases here : machine.current = some env
      · exact (least.2 (show 0 ∈ _ from here)).trans (Nat.zero_le _)
      · obtain ⟨other, bound, reached⟩ :=
          coupled.reached_of_schedulable runs here (origin.resolve_left here)
        exact (least.2 reached).trans bound
    · rw [outcome]
      nofun
    · rw [outcome]
      exact (coupled.turns runs count).2.2
  · rw [← preemptUntil] at outcome
    have away : machine.current ≠ some env := missed 0 (Nat.zero_le _)
    -- In a whole turn around the table it is not met, so that it cannot be scheduled.
    have lost : ¬machine.Schedulable env := fun schedulable => by
      obtain ⟨count, bound, reached⟩ :=
        coupled.reached_of_schedulable runs away schedulable
      exact missed count (by omega) reached
    constructor
    · exact iff_of_false (by rw [outcome]; nofun) (not_or.mpr ⟨away, lost⟩)
    · rw [outcome]
      nofun
    · refine fun _ => ⟨fun count reached => ?_, by rw [outcome]⟩
      exact (coupled.schedulable_of_reached runs reached).elim away lost
    · rw [outcome]
      exact (coupled.turns runs _).2.2

/-- Three environments, of which the one in slot one has the processor. -/
def threeCreated : Machine :=
  after { frames := 16 } [.create ⟨0, []⟩, .create ⟨0, []⟩, .create ⟨0, []⟩, .boot]

/-- The environment behind the one that runs is reached, and the idle one in slot zero is not. -/
theorem preempts_threeCreated :
    (threeCreated.Preempts ⟨4098⟩ ∧ (threeCreated.preemptUntil ⟨4098⟩).1 = true) ∧
      threeCreated.Preempts ⟨4096⟩ ∧ (threeCreated.preemptUntil ⟨4096⟩).1 = false := by
  have runs : threeCreated.current = some ⟨4097⟩ := by decide +kernel
  have next : threeCreated.Preempts ⟨4098⟩ := preempts_after _ _ ⟨4097⟩ ⟨4098⟩ runs
  have idle : threeCreated.Preempts ⟨4096⟩ := preempts_after _ _ ⟨4097⟩ ⟨4096⟩ runs
  refine ⟨⟨next, by decide +kernel⟩, idle, ?_⟩
  -- Nobody waits a thousand interrupts to see this.
  rw [← Bool.not_eq_true, idle.found]
  rintro (same | ⟨busy, -⟩)
  · rw [runs] at same
    exact absurd same (by decide)
  · exact absurd busy (by decide)

end Machine

end Exokernel
