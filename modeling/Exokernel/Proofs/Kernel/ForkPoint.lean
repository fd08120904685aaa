import Exokernel.Proofs.Kernel.Authority
import Exokernel.Proofs.Kernel.EnvIntegrity
import Exokernel.Proofs.Kernel.Wakeups
import Exokernel.Proofs.Preemption
import Exokernel.Proofs.Reachable

/-! A forked child sleeps until its creator starts it, and wakes up where it was forked. -/

namespace Exokernel.Kernel

variable {kernel acted : Kernel} {event : KernelEvent} {owner slot : Slot} {frame : TrapFrame}
  {parent child id : EnvId} {old new : Env}

/-- An environment makes a child, and is told its id. -/
def Forks (kernel : Kernel) (event : KernelEvent) (frame : TrapFrame) (parent child : EnvId) :
    Prop :=
  -- The parent's side of the answer is the child's id.
  ∃ owner words, kernel.Asks event owner frame .fork words ∧ (kernel.envAt owner).id = parent ∧
    (kernel.saved owner frame).fork.1 = .ok child.raw

/-- An environment with the id of the creator asks that the child be made runnable. -/
def StartsChild (kernel : Kernel) (event : KernelEvent) (parent child : EnvId) : Prop :=
  -- Any environment with the creator's id will do, as ids are not used twice while they live.
  ∃ owner frame words, kernel.Asks event owner frame .setStatus words ∧
    (kernel.envAt owner).id = parent ∧ words.first = child.raw ∧
    settableStatus words.second = .ok .runnable

/-- In a part of a run something never happens. -/
def Never (config : Config) (before events : List KernelEvent)
    (happens : Kernel → KernelEvent → Prop) : Prop :=
  -- Each event is looked at in the state that it finds.
  ∀ left event right, events = left ++ event :: right →
    ¬happens (after config (before ++ left)) event

/-- What never happens does not happen in the first events either. -/
theorem Never.init {config : Config} {before events : List KernelEvent}
    {happens : Kernel → KernelEvent → Prop}
    (never : Never config before (events ++ [event]) happens) :
    Never config before events happens :=
  fun left other right split => never left other (right ++ [event]) (by simp [split])

/-- What never happens does not happen last. -/
theorem Never.last {config : Config} {before events : List KernelEvent}
    {happens : Kernel → KernelEvent → Prop}
    (never : Never config before (events ++ [event]) happens) :
    ¬happens (after config (before ++ events)) event :=
  never events event [] rfl

/-- What has not happened so far, and does not happen last, never happens. -/
theorem Never.concat {config : Config} {before events : List KernelEvent}
    {happens : Kernel → KernelEvent → Prop} (never : Never config before events happens)
    (last : ¬happens (after config (before ++ events)) event) :
    Never config before (events ++ [event]) happens := by
  intro left other right split
  -- Either the event is the last one, or it came before.
  rcases List.eq_nil_or_concat right with rfl | ⟨rest, final, rfl⟩
  · obtain ⟨rfl, same⟩ := List.append_inj' split rfl
    exact List.singleton_inj.mp same ▸ last
  · rw [List.concat_eq_append, ← List.cons_append, ← List.append_assoc] at split
    exact never left other rest (List.append_inj' split rfl).1

section Creators

/-- No trap gives an environment that exists another creator. -/
theorem Consistent.parent_effect (consistent : kernel.Consistent) {address : Address}
    {answer : Option Word} (effect : Effect kernel owner frame address acted answer)
    (live : (kernel.envAt slot).isLive = true) :
    (acted.envAt slot).parent = (kernel.envAt slot).parent := by
  -- A fork sets the creator of its child, whose slot was free.
  cases consistent.slotEffect effect slot with
  | kept same => rw [same]
  | faulted _ changed | exited _ _ changed | destroyed _ _ changed | statusSet _ _ _ changed
  | entrySet _ _ changed | waits _ _ _ changed | filled _ _ _ _ changed =>
    exact (congrArg Env.parent changed :)
  | born _ dead => simp [live] at dead

/-- Whatever happens, an environment that exists keeps its creator. -/
theorem Settled.parent_step (settled : kernel.Settled) (event : KernelEvent)
    (live : (kernel.envAt slot).isLive = true) :
    ((kernel.step event).envAt slot).parent = (kernel.envAt slot).parent := by
  cases event with
  | create image =>
    exact congrArg Env.parent ((settled.toConsistent.createEnv_outside image).2 slot live)
  | trap frame address =>
    cases settled.trapCourse frame address with
    | outside unowned undisturbed => exact parent_of_profile (profile_undisturbed undisturbed) slot
    | @owned owner acted answer user current effect ends =>
      obtain ⟨consistent, owns, -⟩ := settled.saved user current
      -- Before the effect the registers are saved, and after it the processor is given away.
      have saved := kernel.profile_saved owner frame
      have there : ((kernel.saved owner frame).envAt slot).isLive = true := by
        rw [isLive_of_profile saved, live]
      rw [Kernel.step, parent_of_profile (profile_undisturbed ends.undisturbed),
        parent_of_profile (acted.profile_answered answer),
        consistent.parent_effect effect there, parent_of_profile saved]
  | reschedule =>
    exact parent_of_profile (profile_undisturbed kernel.ends_reschedule.undisturbed) slot
  | _ => rfl

end Creators

/-- A kernel entry that ends with an environment in the processor has given it the processor. -/
theorem Ends.resumes {outcome : Dispatch × Kernel} (ends : kernel.Ends outcome)
    (running : outcome.2.currentId = some id) : ∃ frame, outcome.1 = .resume id frame := by
  -- The other end is to stop, and then nobody is current.
  cases ends with
  | resume slot ready =>
    have named : ((kernel.dispatched slot).envAt slot).id = id := Option.some.inj running
    rw [envAt_dispatched, if_pos rfl] at named
    exact ⟨_, congrArg (Dispatch.resume · _) named⟩
  | idle => simp [currentId, stopped, halt, enterMonitor] at running

/-- A kernel entry resumes an environment with the registers that it keeps for it. -/
theorem Ends.frame_resumed {outcome : Dispatch × Kernel} (ends : kernel.Ends outcome)
    (consistent : kernel.Consistent) {resumed : TrapFrame}
    (resumes : outcome.1 = .resume id resumed) :
    ∃ env, outcome.2.env? id = some env ∧ env.frame = resumed := by
  obtain ⟨-, env, found, -⟩ := ends.resume_eq consistent resumes
  refine ⟨env, found, ?_⟩
  rw [← (env?_eq_some.mp found).1, ends.frame_eq]
  -- The id of the environment leads back to the slot that was dispatched.
  cases ends with
  | resume slot ready =>
    have home : (kernel.envAt slot).id.slot = slot :=
      consistent.envs.slot_id (Env.isLive_of_isRunnable ready)
    simp only [Dispatch.resume.injEq] at resumes
    rw [← resumes.1, ← resumes.2, home]
  | idle => simp at resumes

/-- Whoever has the processor after an event was given it then, or had it before. -/
theorem Settled.currentId_step (settled : kernel.Settled)
    (running : (kernel.step event).currentId = some id) :
    kernel.Dispatches event id ∨ kernel.currentId = some id := by
  cases event with
  | create image =>
    obtain ⟨same, kept⟩ := settled.toConsistent.createEnv_outside image
    rw [Kernel.step, currentId, same] at running
    refine .inr (Eq.trans ?_ running)
    -- Whoever has the processor exists, and so is not the one that is created.
    cases current : kernel.current with
    | none => simp [currentId, current]
    | some owner =>
      have live := Env.isLive_of_isRunnable (settled.ready owner current)
      rw [currentId, current, Option.map_some, Option.map_some, kept owner live]
  | trap frame address =>
    obtain ⟨last, -, ends | ⟨cause, stops⟩⟩ := settled.trap_ends frame address
    · obtain ⟨resumed, decided⟩ := ends.resumes running
      exact .inl ⟨resumed, congrArg some decided⟩
    · rw [Kernel.step, stops] at running
      simp [currentId, halt, enterMonitor] at running
  | reschedule =>
    obtain ⟨resumed, decided⟩ := kernel.ends_reschedule.resumes running
    exact .inl ⟨resumed, congrArg some decided⟩
  | _ => exact .inr running

/-- Whoever is given the processor goes on with the registers that the kernel keeps for it. -/
theorem Settled.frame_of_decision (settled : kernel.Settled) {resumed : TrapFrame}
    (decided : kernel.decision? event = some (.resume id resumed)) :
    ∃ env, (kernel.step event).env? id = some env ∧ env.frame = resumed := by
  cases event with
  | trap frame address =>
    simp only [decision?, Option.some.injEq] at decided
    obtain ⟨last, leads, ends | ⟨cause, stops⟩⟩ := settled.trap_ends frame address
    · exact ends.frame_resumed leads.consistent decided
    · -- A kernel that stops gives the processor to nobody.
      rw [stops] at decided
      simp [halt] at decided
  | reschedule =>
    simp only [decision?, Option.some.injEq] at decided
    exact kernel.ends_reschedule.frame_resumed settled.toConsistent decided
  | _ => simp [decision?] at decided

/-- What does not change about a child until it runs: no message can reach it meanwhile. -/
structure Dormant (env : Env) (parent : EnvId) (frame : TrapFrame) : Prop where
  /-- It knows its creator. -/
  parent_eq : env.parent = parent
  /-- It goes on from the fork, with a zero as the result. -/
  frame_eq : env.frame = frame.withResult 0
  /-- It has not asked for a message. -/
  quiet : env.mailbox.receiving = false

/-- Nothing that happens to a child that is not running changes its registers. -/
theorem Dormant.step (dormant : Dormant old parent frame) (settled : kernel.Settled)
    (parked : kernel.currentId ≠ some child) (before : kernel.env? child = some old)
    (after : (kernel.step event).env? child = some new) : Dormant new parent frame := by
  obtain ⟨here, live, -⟩ := env?_eq_some.mp before
  obtain ⟨there, -, -⟩ := env?_eq_some.mp after
  have creator : ((kernel.step event).envAt child.slot).parent =
      (kernel.envAt child.slot).parent :=
    settled.parent_step event (by rw [here]; exact live)
  rw [here, there, dormant.parent_eq] at creator
  cases settled.parkedStep parked before after with
  | kept frame_eq receiving_eq =>
    exact ⟨creator, frame_eq.trans dormant.frame_eq, receiving_eq.trans dormant.quiet⟩
  | answered sends asked =>
    -- A message only comes to those that have asked for one.
    rw [dormant.quiet] at asked
    simp at asked

/-- Whoever a caller may change is the caller itself, or a child of it that exists. -/
theorem owned?_eq_some {target : EnvId} (owned : kernel.owned? owner target = some slot) :
    slot = owner ∨ ∃ env, kernel.env? target = some env ∧ target.slot = slot ∧
      env.parent = (kernel.envAt owner).id := by
  obtain ⟨found, addressed, allowed⟩ := Option.bind_eq_some_iff.mp owned
  split at allowed
  · rename_i family
    obtain rfl := Option.some.inj allowed
    -- Zero addresses the caller itself, so that a child is always addressed by its id.
    rcases family with same | parent
    · exact .inl same
    · rw [addressee?] at addressed
      split at addressed
      · exact .inl (Option.some.inj addressed).symm
      · obtain ⟨env, there, rfl⟩ := Option.map_eq_some_iff.mp addressed
        exact .inr ⟨env, there, rfl, (env?_eq_some.mp there).1 ▸ parent⟩
  · simp at allowed

/-- Of the ways to become runnable, a dormant child is left with being started by its creator. -/
theorem Dormant.startsChild (dormant : Dormant old parent frame) (settled : kernel.Settled)
    (before : kernel.env? child = some old) (asleep : old.status = .notRunnable)
    (after : (kernel.step event).env? child = some new) (ready : new.status = .runnable) :
    kernel.StartsChild event parent child := by
  obtain ⟨here, -, named⟩ := env?_eq_some.mp before
  rcases settled.woken before asleep after ready with ⟨message, sends⟩ | starts
  · -- It has not asked for a message, so that none can have woken it.
    obtain ⟨env, found, waits, -⟩ := settled.delivered_of_sends sends
    obtain rfl := Option.some.inj (before.symm.trans found)
    simp [Env.awaitsMessage, dormant.quiet] at waits
  · obtain ⟨owner, entry, words, asks, settable, found, -⟩ := starts
    have owns : (kernel.saved owner entry).current = some owner := asks.owns
    rw [findOwned_eq_ok owns, owned?_of_profile (kernel.profile_saved owner entry)] at found
    rcases owned?_eq_some found with same | ⟨env, there, place, creator⟩
    · -- The child is not the one that makes the call, because it cannot run.
      have running := settled.ready owner asks.owns
      rw [← same, here, Env.isRunnable, asleep] at running
      simp at running
    · obtain ⟨occupied, -, target⟩ := env?_eq_some.mp there
      rw [place, here] at occupied
      rw [← occupied] at target creator
      refine ⟨owner, entry, words, asks, creator.symm.trans dormant.parent_eq, ?_, settable⟩
      exact (congrArg EnvId.raw (named.symm.trans target)).symm

/-- What all slots hold once a child was made. -/
theorem Consistent.envAt_fork (consistent : kernel.Consistent)
    (owns : kernel.current = some owner) (forked : kernel.fork = (.ok child.raw, acted)) :
    acted.current = some owner ∧ (kernel.envAt child.slot).isLive = false ∧
      0 < child.raw.toInt32.toInt ∧ ∃ space, ∀ other, acted.envAt other =
        if other = child.slot then
          (Env.fresh child (kernel.envAt owner).id space).asChildOf (kernel.envAt owner)
        else kernel.envAt other := by
  simp only [fork, Kernel.owner, owns] at forked
  split at forked
  · simp at forked
  · rename_i place space made allocated
    simp only [Prod.mk.injEq, Except.ok.injEq] at forked
    obtain ⟨named, rfl⟩ := forked
    have dead := consistent.not_isLive_of_allocEnv allocated
    have slots := envAt_allocEnv allocated
    obtain ⟨rest, memory, -, -, made_eq⟩ := Kernel.allocEnv_ok allocated
    -- The id of the child is the next one of its slot, and leads back there.
    have id_eq : child = (kernel.envAt place).id.next place := by
      rw [envAt_modifyEnv, if_pos rfl, slots, if_pos rfl] at named
      exact congrArg EnvId.mk named.symm
    have home : child.slot = place := by rw [id_eq, EnvId.slot_next]
    have bounds := (kernel.envAt place).id.next_bounds place
    rw [← id_eq] at bounds
    refine ⟨?_, home ▸ dead, toInt_toInt32_pos (by omega) (by omega), space, fun other => ?_⟩
    · rw [made_eq]
      exact owns
    · rw [home, envAt_modifyEnv, slots, slots, if_pos rfl, ← id_eq]
      split <;> rfl

/-- What is known of a child, and of its creator, once it was made. -/
structure Begins (kernel : Kernel) (event : KernelEvent) (frame : TrapFrame)
    (parent child : EnvId) : Prop where
  /-- The creator goes on with the id of the child. -/
  answered : kernel.decision? event = some (.resume parent (frame.withResult child.raw))
  /-- The id reads as a positive number. -/
  positive : 0 < child.raw.toInt32.toInt
  /-- The child does not have the processor. -/
  parked : (kernel.step event).currentId ≠ some child
  /-- The child exists, blocked and with the registers of the fork. -/
  made : ∃ env, (kernel.step event).env? child = some env ∧ env.status = .notRunnable ∧
    Dormant env parent frame

/-- A fork that succeeds leaves a dormant child behind. -/
theorem Forks.begins (forks : kernel.Forks event frame parent child) (settled : kernel.Settled) :
    kernel.Begins event frame parent child := by
  obtain ⟨owner, words, ⟨⟨address, rfl⟩, user, owns, request⟩, named, succeeded⟩ := forks
  obtain ⟨consistent, savedOwns, savedReady⟩ := settled.saved user owns
  have forked : (kernel.saved owner frame).fork =
      (.ok child.raw, (kernel.saved owner frame).fork.2) := Prod.ext succeeded rfl
  have performed : (kernel.saved owner frame).perform .fork words =
      (.stay child.raw, (kernel.saved owner frame).fork.2) := by
    show answer (kernel.saved owner frame).fork = _
    rw [forked]
    rfl
  obtain ⟨stillOwns, dead, positive, space, slots⟩ := consistent.envAt_fork savedOwns forked
  generalize (kernel.saved owner frame).fork.2 = acted at performed stillOwns slots
  have ready := settled.ready owner owns
  -- The slot of the child was free, so that it is not the one of the creator.
  have apart : owner ≠ child.slot := by
    intro same
    rw [← same, Env.isLive_of_isRunnable savedReady] at dead
    simp at dead
  have caller : acted.envAt owner = { kernel.envAt owner with frame } := by
    rw [slots, if_neg apart, envAt_saved, if_pos rfl]
  have stillReady : (acted.envAt owner).isRunnable = true := by
    rw [caller]
    exact ready
  -- The creator goes on at once, with the id of the child for an answer.
  have entered := trap_request user owns request address performed
  rw [goOn_withResult stillOwns stillReady, caller] at entered
  have after := envAt_trap_request user owns request address performed stillOwns stillReady
  have creator : parent.slot = owner := by
    rw [← named]
    exact settled.envs.slot_id (Env.isLive_of_isRunnable ready)
  refine ⟨?_, positive, ?_, _, env?_eq_some.mpr ⟨rfl, ?_, ?_⟩, ?_, ?_, ?_, ?_⟩
  · rw [decision?, entered, named]
  · rw [Kernel.step, currentId, show (kernel.trap frame address).2.current = some owner by
      rw [entered]; rfl, Option.map_some, after, if_pos rfl]
    -- The creator is not its own child, since they are in different slots.
    rintro same
    have id_eq : (acted.envAt owner).id = child := Option.some.inj same
    rw [caller] at id_eq
    exact apart (creator.symm.trans (congrArg EnvId.slot (named.symm.trans id_eq)))
  -- The rest is about the child, which has the saved registers with zero for an answer.
  all_goals rw [Kernel.step, after, if_neg (Ne.symm apart), slots, if_pos rfl]
  · rfl
  · rfl
  · rfl
  · rw [envAt_saved, if_pos rfl]
    exact named
  · rw [envAt_saved, if_pos rfl]
    rfl
  · rfl

section Runs

variable {config : Config} {before events : List KernelEvent} {fork : KernelEvent}

/-- Until it is given the processor a child is dormant, and blocked unless it was started. -/
structure Sleeps (config : Config) (before events : List KernelEvent) (frame : TrapFrame)
    (parent child : EnvId) : Prop where
  /-- The child does not have the processor. -/
  parked : (after config (before ++ events)).currentId ≠ some child
  /-- The child exists, and what matters about it has stayed. -/
  dormant : ∃ env, (after config (before ++ events)).env? child = some env ∧
    Dormant env parent frame ∧
    (Never config before events (·.StartsChild · parent child) → env.status = .notRunnable)

/-- One more event that does not give a child the processor leaves it asleep. -/
theorem Sleeps.step (sleeps : Sleeps config before events frame parent child)
    (last : ¬(after config (before ++ events)).Dispatches event child)
    (alive : ((after config (before ++ (events ++ [event]))).env? child).isSome = true) :
    Sleeps config before (events ++ [event]) frame parent child := by
  have settled := settled_after config (before ++ events)
  obtain ⟨old, named, dormant, asleep⟩ := sleeps.dormant
  obtain ⟨new, found⟩ := Option.isSome_iff_exists.mp alive
  have next : after config (before ++ (events ++ [event])) =
      (after config (before ++ events)).step event := by
    rw [← List.append_assoc, after_concat]
  rw [next] at found
  refine ⟨fun running => ?_, new, next ▸ found, dormant.step settled sleeps.parked named found,
    fun never => ?_⟩
  · rw [next] at running
    -- Whoever has the processor was given it, or had it before.
    exact (settled.currentId_step running).elim last sleeps.parked
  · -- It was blocked before, and only its creator could have changed that.
    obtain ⟨there, live, -⟩ := env?_eq_some.mp found
    have states : new.status = .runnable ∨ new.status = .notRunnable := by
      rw [← there] at live ⊢
      exact (settled.step event).envs.status_cases live
    refine states.resolve_left fun ready => never.last ?_
    exact dormant.startsChild settled named (asleep never.init) found ready

/-- A child sleeps through every run in which it lives and is not given the processor. -/
theorem sleeps_after (begins : (after config before).Begins fork frame parent child)
    (alive : ∀ left, left <+: events →
      ((after config (before ++ [fork] ++ left)).env? child).isSome = true)
    (parked : Never config (before ++ [fork]) events (·.Dispatches · child)) :
    Sleeps config (before ++ [fork]) events frame parent child := by
  -- Induct on the events since the fork, the last one first.
  induction events using List.reverseRecOn with
  | nil =>
    obtain ⟨env, found, asleep, dormant⟩ := begins.made
    refine ⟨?_, env, ?_, dormant, fun _ => asleep⟩ <;> rw [List.append_nil, after_concat]
    · exact begins.parked
    · exact found
  | append_singleton events event ih =>
    have earlier := ih (fun left inside => alive left (inside.trans (List.prefix_append _ _)))
      parked.init
    exact earlier.step parked.last (alive _ List.prefix_rfl)

/-- A child that its creator does not start is never given the processor. -/
theorem parked_of_unstarted (begins : (after config before).Begins fork frame parent child)
    (alive : ∀ left, left <+: events →
      ((after config (before ++ [fork] ++ left)).env? child).isSome = true)
    (unstarted : Never config (before ++ [fork]) events (·.StartsChild · parent child)) :
    Never config (before ++ [fork]) events (·.Dispatches · child) := by
  induction events using List.reverseRecOn with
  | nil => exact fun left event right split => by simp at split
  | append_singleton events event ih =>
    have earlier (left : List KernelEvent) (inside : left <+: events) :=
      alive left (inside.trans (List.prefix_append _ _))
    have parked := ih earlier unstarted.init
    refine parked.concat fun dispatches => ?_
    -- Being given the processor takes that it can run, which it cannot before it was started.
    have settled := settled_after config (before ++ [fork] ++ events)
    obtain ⟨old, named, dormant, asleep⟩ := (sleeps_after begins earlier parked).dormant
    obtain ⟨new, found, ready⟩ := settled.ready_of_dispatches dispatches
    exact unstarted.last
      (dormant.startsChild settled named (asleep unstarted.init) found ready)

/-- A child wakes up where it was forked, once its creator starts it and not before. -/
structure WakesAtFork (config : Config) (before : List KernelEvent) (fork : KernelEvent)
    (events : List KernelEvent) (frame : TrapFrame) (parent child : EnvId) : Prop where
  /-- The creator goes on with the id of the child. -/
  answered : (after config before).decision? fork =
    some (.resume parent (frame.withResult child.raw))
  /-- The id reads as a positive number. -/
  positive : 0 < child.raw.toInt32.toInt
  /-- As long as its creator has not started it, the child is blocked, with the same registers. -/
  asleep : Never config (before ++ [fork]) events (·.StartsChild · parent child) →
    ∃ env, (after config (before ++ [fork] ++ events)).env? child = some env ∧
      env.status = .notRunnable ∧ env.frame = frame.withResult 0
  /-- Until then it has not been given the processor. -/
  parked : Never config (before ++ [fork]) events (·.StartsChild · parent child) →
    Never config (before ++ [fork]) events (·.Dispatches · child)
  /-- Given the processor for the first time, it goes on as its creator did, with zero. -/
  first : Never config (before ++ [fork]) events (·.Dispatches · child) → ∀ last resumed,
    (after config (before ++ [fork] ++ events)).decision? last = some (.resume child resumed) →
      resumed = frame.withResult 0

/--
A forked child wakes up at the fork, whatever happens in between.

Others may send to it, map pages for it or ask for its start, and its creator may be gone.
-/
theorem wakesAtFork_after (config : Config) (before events : List KernelEvent)
    (fork : KernelEvent) (frame : TrapFrame) (parent child : EnvId)
    (forks : (after config before).Forks fork frame parent child)
    (alive : ∀ left, left <+: events →
      ((after config (before ++ [fork] ++ left)).env? child).isSome = true) :
    WakesAtFork config before fork events frame parent child := by
  have begins := forks.begins (settled_after config before)
  refine ⟨begins.answered, begins.positive, fun unstarted => ?_,
    parked_of_unstarted begins alive, fun parked last resumed decided => ?_⟩
  · have sleeps := sleeps_after begins alive (parked_of_unstarted begins alive unstarted)
    obtain ⟨env, found, dormant, asleep⟩ := sleeps.dormant
    exact ⟨env, found, asleep unstarted, dormant.frame_eq⟩
  · have settled := settled_after config (before ++ [fork] ++ events)
    have sleeps := sleeps_after begins alive parked
    obtain ⟨old, named, dormant, -⟩ := sleeps.dormant
    obtain ⟨new, found, rfl⟩ := settled.frame_of_decision decided
    -- The registers that it is given are those that the kernel has kept for it.
    exact (dormant.step settled sleeps.parked named found).frame_eq

/-- Two environments are created, and the one in slot one gets the processor. -/
def twoCreated : List KernelEvent :=
  [.create ⟨0, []⟩, .create ⟨0, []⟩, .reschedule]

/-- A child that its creator starts at once is the next to run, with a zero as the result. -/
theorem wakesAtFork_started :
    WakesAtFork { frames := 16 } twoCreated (callEvent .fork {})
      [callEvent .setStatus { first := 4098, second := 1 }] (Machine.called .initial .fork {})
      ⟨4097⟩ ⟨4098⟩ ∧
    (after { frames := 16 } (twoCreated ++ [callEvent .fork {}] ++
      [callEvent .setStatus { first := 4098, second := 1 }])).decision? timerEvent =
        some (.resume ⟨4098⟩ ((Machine.called .initial .fork {}).withResult 0)) := by
  refine ⟨wakesAtFork_after _ _ _ _ _ _ _ ?_ fun left inside => ?_, by decide +kernel⟩
  · exact ⟨slotAt 1, {}, ⟨⟨0, rfl⟩, by decide, by decide +kernel,
      Machine.requests_called .initial .fork {}⟩, by decide +kernel, by decide +kernel⟩
  · -- The child is there after the fork, and after it was started.
    rcases List.prefix_concat_iff.mp (show left <+: [] ++ [_] from inside) with rfl | none_
    · decide +kernel
    · obtain rfl := List.prefix_nil.mp none_
      decide +kernel

end Runs

end Exokernel.Kernel
