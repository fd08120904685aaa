import Exokernel.Proofs.Accesses
import Exokernel.Proofs.Kernel.Mail
import Exokernel.Proofs.Traps

/-! The registers of an environment across an interrupt, until it runs again. -/

namespace Exokernel

namespace Kernel

/-- What happens in one step to the registers of an environment that is not running. -/
inductive ParkedStep (kernel : Kernel) (event : KernelEvent) (id : EnvId) (old new : Env) :
    Prop where
  /-- They stay, and the environment waits for a message if it did. -/
  | kept (frame_eq : new.frame = old.frame)
    (receiving_eq : new.mailbox.receiving = old.mailbox.receiving)
  /-- A message has arrived, and with it a zero in the result register. -/
  | answered {message : Message} (sends : kernel.Sends event id message)
    (asked : old.mailbox.receiving = true) (frame_eq : new.frame = old.frame.withResult 0)
    (done : new.mailbox.receiving = false)

/-- Only a message changes the registers of an environment that is not running. -/
theorem Settled.parkedStep {kernel : Kernel} {event : KernelEvent} {id : EnvId} {old new : Env}
    (settled : kernel.Settled) (parked : kernel.currentId ≠ some id)
    (before : kernel.env? id = some old) (after : (kernel.step event).env? id = some new) :
    ParkedStep kernel event id old new := by
  cases settled.mailStep after with
  | fresh absent => simp [absent] at before
  | kept found same frame_eq =>
    rw [before, Option.some.injEq] at found
    exact .kept (found ▸ frame_eq parked) (by rw [same, found])
  | waits found accepts =>
    -- Whoever makes a call is running.
    obtain ⟨owner, frame, words, asks, named, -⟩ := accepts
    exact absurd (by rw [currentId, asks.owns, Option.map_some, named]) parked
  | filled sends =>
    -- It waited for this message, and goes on with it as with an answer.
    obtain ⟨env, found, waits, delivered⟩ := settled.delivered_of_sends sends
    rw [before, Option.some.injEq] at found
    rw [after, Option.some.injEq] at delivered
    simp only [Env.awaitsMessage, Bool.and_eq_true] at waits
    exact .answered sends (found ▸ waits.1) (by rw [delivered, found]; rfl) (by rw [delivered]; rfl)

/-- An interrupt that is expected gives the processor away, or back, and does nothing else. -/
theorem ends_of_expected {kernel : Kernel} {owner : Slot} {frame : TrapFrame}
    (user : frame.fromUser = true) (owns : kernel.current = some owner)
    (expected : TrapKind.ofVector frame.vector = .timer ∨
      TrapKind.ofVector frame.vector = .spurious) (address : Address) :
    ∃ base : Kernel, base.envs = (kernel.saved owner frame).envs ∧
      base.Ends (kernel.trap frame address) := by
  -- The timer may give the processor to another environment, but it only counts a tick.
  rcases expected with timer | spurious
  · rw [trap_timer user owns timer]
    generalize (kernel.saved owner frame).clock.tick = clock
    exact ⟨{ kernel.saved owner frame with clock }, rfl, ends_reschedule _⟩
  · rw [trap_spurious user owns spurious]
    exact ⟨kernel.saved owner frame, rfl, ends_goOn _⟩

end Kernel

namespace Machine

variable {machine : Machine} {outcome : Dispatch × Kernel} {id : EnvId} {old : Env}
  {frame resumed : TrapFrame} {line : Word}

/-- Entering the kernel is an event of the kernel. -/
theorem Enters.kernel_eq (enters : machine.Enters outcome) :
    ∃ entry, outcome.2 = machine.kernel.step entry := by
  -- Booting schedules; all else is a trap.
  cases enters with
  | boot => exact ⟨.reschedule, rfl⟩
  | user running frame mode address => exact ⟨.trap frame address, rfl⟩
  | kernel vector eip address => exact ⟨.trap (.kernel vector eip) address, rfl⟩

/-- A running environment that traps enters the kernel. -/
theorem Coupled.enters_of_raise (coupled : machine.Coupled)
    (running : machine.cpu = .running id frame) (vector code : Word) (address : Address) :
    ∃ outcome, machine.Enters outcome ∧ machine.raise vector code address = apply outcome := by
  -- A running environment is always in user mode.
  have user : ({ frame with vector, code } : TrapFrame).fromUser = true :=
    coupled.userMode frame (by simp [frame?, running])
  exact ⟨_, .user running _ user address, by simp only [Machine.raise, running]⟩

/-- What becomes of a machine whose kernel is entered, or whose environment goes on running. -/
inductive Moves (machine next : Machine) : Prop where
  /-- The kernel is entered, and gives the processor to whom it chooses. -/
  | entered {outcome : Dispatch × Kernel} (enters : machine.Enters outcome)
    (next_eq : next = apply outcome)
  /-- The same environment runs, and nothing happens in the kernel. -/
  | kept (current_eq : next.current = machine.current) (kernel_eq : next.kernel = machine.kernel)
  /-- The same environment runs, and something happens in the kernel. -/
  | acted (entry : KernelEvent) (current_eq : next.current = machine.current)
    (kernel_eq : next.kernel = machine.kernel.step entry)

/-- A trap that is raised enters the kernel, or nothing happens. -/
theorem Coupled.moves_raise (coupled : machine.Coupled) (vector code : Word) (address : Address) :
    machine.Moves (machine.raise vector code address) := by
  cases state : machine.cpu with
  | running env frame =>
    obtain ⟨outcome, enters, same⟩ := coupled.enters_of_raise state vector code address
    exact .entered enters same
  | _ =>
    -- Without a running environment there is nobody to raise a trap.
    rw [show machine.raise vector code address = machine by simp only [Machine.raise, state]]
    exact .kept rfl rfl

/-- Resolving a range leaves the machine alone or enters the kernel. -/
theorem Coupled.moves_resolveRange (coupled : machine.Coupled) (write : Bool) (va : Address)
    (length : Nat) : machine.Moves (machine.resolveRange write va length).2 := by
  -- Without an owner or a space nothing is raised; a refused address raises a fault.
  unfold Machine.resolveRange
  split
  · exact .kept rfl rfl
  · split
    · exact coupled.moves_raise _ _ _
    · split <;> exact .kept rfl rfl

/-- A load enters the kernel if it is refused, and changes nothing otherwise. -/
theorem Coupled.moves_load (coupled : machine.Coupled) (va : Address) (length : Nat) :
    machine.Moves (machine.load va length).2 := by
  -- All that a load does to the machine happens while its range is resolved.
  have resolved := coupled.moves_resolveRange false va length
  unfold Machine.load
  split
  · rename_i next refused
    rwa [refused] at resolved
  · rename_i space next granted
    rw [granted] at resolved
    split <;> exact resolved

/-- A store that is granted writes by the kernel's own hand. -/
theorem Coupled.moves_store (coupled : machine.Coupled) (va : Address) (data : List UInt8) :
    machine.Moves (machine.store va data).2 := by
  -- A refused range has trapped already; a granted one leaves the machine as it was.
  have resolved := coupled.moves_resolveRange true va data.length
  unfold Machine.store
  split
  · rename_i next refused
    rwa [refused] at resolved
  · rename_i space next granted
    obtain ⟨rfl, -, -⟩ := resolveRange_ok granted
    exact .acted (.write space va data) rfl rfl

/-- A system call is a trap with registers that were set up for it. -/
theorem Coupled.moves_syscall (coupled : machine.Coupled) (call : Syscall) (words : Arguments) :
    machine.Moves (machine.syscall call words).2 := by
  unfold Machine.syscall
  split
  · rename_i env frame running
    -- The trap comes from user mode, as the registers do not touch the segments.
    have user : ({ callFrame frame call words with
        vector := TrapVector.systemCall, code := 0 } : TrapFrame).fromUser = true :=
      coupled.userMode frame (by simp [frame?, running])
    refine .entered (.user running _ user 0) ?_
    dsimp only
    split
    · split <;> rfl
    · rfl
  · exact .kept rfl rfl

/-- Either the kernel is entered, or the same environment goes on running. -/
theorem Coupled.moves (coupled : machine.Coupled) (event : MachineEvent) :
    machine.Moves (machine.step event) := by
  cases event with
  | create image => exact .acted (.create image) rfl rfl
  | boot => exact .entered .boot rfl
  | load va length => exact coupled.moves_load va length
  | store va data => exact coupled.moves_store va data
  | syscall call words => exact coupled.moves_syscall call words
  | setContext context =>
    simp only [Machine.step, Machine.setContext]
    -- New registers leave the same environment running.
    split
    · rename_i env frame running
      exact .kept (by simp [current, running]) rfl
    · exact .kept rfl rfl
  | exception vector code => exact coupled.moves_raise vector code 0
  | interrupt line => exact coupled.moves_raise (TrapVector.irqBase + line) 0 0
  | kernelTrap vector eip address => exact .entered (.kernel vector eip address) rfl
  | forceFailure => exact .acted .forceFailure rfl rfl
  | typed bytes => exact .acted (.typed bytes) rfl rfl

/-- What happens to a machine is at most one event of its kernel. -/
theorem Coupled.kernel_step (coupled : machine.Coupled) (event : MachineEvent) :
    (machine.step event).kernel = machine.kernel ∨
      ∃ entry, (machine.step event).kernel = machine.kernel.step entry := by
  -- A move is an entry, nothing at all, or one event of the kernel by itself.
  cases coupled.moves event with
  | entered enters next_eq =>
    rw [next_eq, kernel_apply]
    exact .inr enters.kernel_eq
  | kept _ same => exact .inl same
  | acted entry _ same => exact .inr ⟨entry, same⟩

/-- Whoever is given the processor has the registers that the kernel keeps for it. -/
theorem Coupled.saved_of_enters (coupled : machine.Coupled) (enters : machine.Enters outcome)
    (running : (apply outcome).cpu = .running id frame) :
    ∃ env, (apply outcome).kernel.env? id = some env ∧ env.frame = frame := by
  obtain ⟨last, leads, ends | ⟨cause, -, rfl⟩⟩ := coupled.entry enters
  · -- The kernel ends with a dispatch, and sets up the processor from what it keeps.
    cases ends with
    | resume slot ready =>
      simp only [apply, CpuState.running.injEq] at running
      obtain ⟨rfl, rfl⟩ := running
      have live := Env.isLive_of_isRunnable ready
      have own : (last.envAt slot).id.slot = slot := leads.consistent.envs.slot_id live
      refine ⟨{ last.envAt slot with runs := (last.envAt slot).runs + 1 },
        Kernel.env?_eq_some.mpr ⟨?_, live, rfl⟩, rfl⟩
      rw [kernel_apply, own]
      show (last.dispatched slot).envAt slot = _
      rw [Kernel.envAt_dispatched, if_pos rfl]
    | idle => simp [apply] at running
  · simp [apply, Kernel.halt] at running

/-- Whoever begins to run begins with the registers that the kernel keeps for it. -/
theorem Coupled.saved_of_step (coupled : machine.Coupled) (event : MachineEvent)
    (other : machine.current ≠ some id)
    (running : (machine.step event).cpu = .running id frame) :
    ∃ env, (machine.step event).kernel.env? id = some env ∧ env.frame = frame := by
  -- Only an entry can change who runs, and then the registers are those saved.
  cases coupled.moves event with
  | entered enters next_eq =>
    rw [next_eq] at running ⊢
    exact coupled.saved_of_enters enters running
  | kept same _ | acted _ same _ =>
    rw [← same, current, running] at other
    simp at other

/-- An interrupt that the kernel expects saves the registers, and touches nothing else. -/
theorem Coupled.saved_of_interrupt (coupled : machine.Coupled)
    (running : machine.cpu = .running id frame)
    (expected : line = TrapVector.timerLine ∨ line = TrapVector.spuriousLine) :
    ∃ old new, machine.kernel.env? id = some old ∧
      (machine.interrupt line).kernel.env? id = some new ∧
      new.frame = interrupted frame line ∧
      new.mailbox = old.mailbox := by
  obtain ⟨owner, owns, named⟩ := coupled.owner running
  have live : (machine.kernel.envAt owner).isLive = true :=
    Env.isLive_of_isRunnable (coupled.settled.ready owner owns)
  have here : id.slot = owner := by
    rw [← named]
    exact coupled.settled.toConsistent.envs.slot_id live
  generalize trapped : interrupted frame line = entered
  have user : entered.fromUser = true := by
    rw [← trapped]
    exact coupled.userMode frame (by simp [frame?, running])
  -- The interrupt enters the kernel with the frame that was pushed.
  have next : (machine.interrupt line).kernel = (machine.kernel.trap entered 0).2 := by
    have entry := step_interrupt running line
    rw [trapped] at entry
    rw [← kernel_apply, ← entry]
    rfl
  -- The vector is that of the timer, or of an interrupt that means nothing.
  have kind : TrapKind.ofVector entered.vector = .timer ∨
      TrapKind.ofVector entered.vector = .spurious := by
    rw [← trapped]
    show TrapKind.ofVector (TrapVector.irqBase + line) = .timer ∨
      TrapKind.ofVector (TrapVector.irqBase + line) = .spurious
    rcases expected with rfl | rfl <;> decide
  obtain ⟨base, envs, ends⟩ := Kernel.ends_of_expected user owns kind 0
  -- What is left of the trap is that the registers were saved.
  have saved : base.envAt owner = { machine.kernel.envAt owner with frame := entered } := by
    rw [Kernel.envAt, envs, ← Kernel.envAt, Kernel.envAt_saved, if_pos rfl]
  have same := Kernel.SameMail.ends ends owner
  rw [next]
  refine ⟨_, _, Kernel.env?_eq_some.mpr ⟨rfl, ?_, ?_⟩, Kernel.env?_eq_some.mpr ⟨rfl, ?_, ?_⟩,
    ?_, ?_⟩
  · rw [here]
    exact live
  · rw [here]
    exact named
  · rw [here, same.live_eq, saved]
    exact live
  · rw [here, same.id_eq, saved]
    exact named
  · rw [here, ends.frame_eq, saved]
  · rw [here, same.mailbox_eq, saved]

/-- One event of a run brings a message to an environment. -/
def Delivers (machine : Machine) (events : List MachineEvent) (id : EnvId) : Prop :=
  -- The event is one of the kernel's own, which sends the message.
  ∃ done event rest entry message, events = done ++ event :: rest ∧
    (done.foldl step machine).kernel.Sends entry id message ∧
    ((done.foldl step machine).step event).kernel = (done.foldl step machine).kernel.step entry

/-- Either the first event brings a message, or a later one does. -/
theorem delivers_cons {event : MachineEvent} {rest : List MachineEvent} :
    machine.Delivers (event :: rest) id ↔
      (∃ entry message, machine.kernel.Sends entry id message ∧
        (machine.step event).kernel = machine.kernel.step entry) ∨
      (machine.step event).Delivers rest id := by
  -- A split of the list is either at its head or inside its tail.
  constructor
  · rintro ⟨done, event', rest', entry, message, split, sends, stepped⟩
    cases done with
    | nil =>
      obtain ⟨rfl, rfl⟩ := List.cons.inj split
      exact .inl ⟨entry, message, sends, stepped⟩
    | cons first done =>
      obtain ⟨rfl, rfl⟩ := List.cons.inj split
      exact .inr ⟨done, event', rest', entry, message, rfl, sends, stepped⟩
  · rintro (⟨entry, message, sends, stepped⟩ |
      ⟨done, event', rest', entry, message, rfl, sends, stepped⟩)
    · exact ⟨[], event, rest, entry, message, rfl, sends, stepped⟩
    · exact ⟨event :: done, event', rest', entry, message, rfl, sends, stepped⟩

/--
One event of the machine changes the registers of an environment that is not running only by a
message, which it must have asked for.
-/
theorem Coupled.parked_step (coupled : machine.Coupled) (idle : machine.kernel.currentId ≠ some id)
    (found : machine.kernel.env? id = some old) {event : MachineEvent} {new : Env}
    (next : (machine.step event).kernel.env? id = some new) :
    (¬(∃ entry message, machine.kernel.Sends entry id message ∧
        (machine.step event).kernel = machine.kernel.step entry) ∧
      new.frame = old.frame ∧ new.mailbox.receiving = old.mailbox.receiving) ∨
    (∃ entry message, machine.kernel.Sends entry id message ∧
        (machine.step event).kernel = machine.kernel.step entry) ∧
      new.frame = old.frame.withResult 0 ∧ old.mailbox.receiving = true ∧
      new.mailbox.receiving = false := by
  by_cases sent : ∃ entry message, machine.kernel.Sends entry id message ∧
      (machine.step event).kernel = machine.kernel.step entry
  · refine .inr ⟨sent, ?_⟩
    obtain ⟨entry, message, sends, stepped⟩ := sent
    -- The message goes into what the kernel keeps: one of the registers, and the mailbox.
    obtain ⟨env, named, waits, delivered⟩ := coupled.settled.delivered_of_sends sends
    rw [found, Option.some.injEq] at named
    rw [← stepped, ← named] at delivered
    have same : new = old.delivered message := Option.some.inj (next.symm.trans delivered)
    rw [← named, Env.awaitsMessage, Bool.and_eq_true] at waits
    rw [same]
    exact ⟨rfl, waits.1, rfl⟩
  · refine .inl ⟨sent, ?_⟩
    -- The kernel was not entered, or entered for something else.
    rcases coupled.kernel_step event with same | ⟨entry, stepped⟩
    · rw [same, found, Option.some.injEq] at next
      exact ⟨by rw [next], by rw [next]⟩
    · rw [stepped] at next
      cases coupled.settled.parkedStep idle found next with
      | kept frame_eq receiving_eq => exact ⟨frame_eq, receiving_eq⟩
      | answered sends => exact absurd ⟨entry, _, sends, stepped⟩ sent

/-- While an environment is not running, only a message changes its registers, and only once. -/
theorem Coupled.parked_foldl (coupled : machine.Coupled) (found : machine.kernel.env? id = some old)
    (events : List MachineEvent)
    (parked : ∀ done event rest, events = done ++ event :: rest →
      (done.foldl Machine.step machine).current ≠ some id)
    (alive : ∀ done, done <+: events →
      ((done.foldl Machine.step machine).kernel.env? id).isSome = true) :
    ∃ new, (events.foldl Machine.step machine).kernel.env? id = some new ∧
      (¬machine.Delivers events id ∧ new.frame = old.frame ∧
          new.mailbox.receiving = old.mailbox.receiving ∨
        machine.Delivers events id ∧ new.frame = old.frame.withResult 0 ∧
          old.mailbox.receiving = true ∧ new.mailbox.receiving = false) := by
  -- Induct on what is still to come, from the environment that is there after the first event.
  induction events generalizing machine old with
  | nil =>
    refine ⟨old, found, .inl ⟨?_, rfl, rfl⟩⟩
    rintro ⟨done, event, rest, entry, message, split, -⟩
    simp at split
  | cons event rest ih =>
    have idle : machine.kernel.currentId ≠ some id := by
      rw [← coupled.current_eq]
      exact parked [] event rest rfl
    obtain ⟨middle, next⟩ := Option.isSome_iff_exists.mp
      (alive [event] (List.cons_prefix_cons.mpr ⟨rfl, List.nil_prefix⟩))
    obtain ⟨new, last, later⟩ := ih (coupled.step event) next
      (fun done event' rest' split => parked (event :: done) event' rest' (by rw [split]; rfl))
      (fun done before => alive (event :: done) (List.cons_prefix_cons.mpr ⟨rfl, before⟩))
    refine ⟨new, last, ?_⟩
    rw [delivers_cons]
    rcases coupled.parked_step idle found next with
      ⟨silent, frame_eq, receiving_eq⟩ | ⟨sent, frame_eq, asked, done⟩
    · -- Without a message the registers are the same as before, and so is what comes later.
      rw [frame_eq, receiving_eq] at later
      rwa [or_iff_right silent]
    · -- After the message nothing is asked for, so there is no second one.
      rcases later with ⟨-, kept, still⟩ | ⟨-, -, again, -⟩
      · exact .inr ⟨.inl sent, kept.trans frame_eq, asked, still.trans done⟩
      · simp [done] at again

/-- An environment is interrupted, and the next time it runs is after a part of the run. -/
structure Preempted (machine : Machine) (line : Word) (meanwhile : List MachineEvent) (id : EnvId)
    (frame resumed : TrapFrame) : Prop where
  /-- The environment runs, with these registers. -/
  running : machine.cpu = .running id frame
  /-- The interrupt comes from the timer, or from nowhere. -/
  expected : line = TrapVector.timerLine ∨ line = TrapVector.spuriousLine
  /-- Until the end of that part of the run the environment does not run. -/
  parked : ∀ done event rest, meanwhile = done ++ event :: rest →
    (done.foldl step (machine.interrupt line)).current ≠ some id
  /-- It is not destroyed. -/
  alive : ∀ done, done <+: meanwhile →
    ((done.foldl step (machine.interrupt line)).kernel.env? id).isSome = true
  /-- Then it runs again. -/
  back : (meanwhile.foldl step (machine.interrupt line)).cpu = .running id resumed

/--
An environment that was interrupted goes on with the registers that it had. The one exception is
an environment that gets a message before it runs again: it had asked for one at some time, and
finds a zero in its result register.
-/
theorem resumed_after (config : Config) (past meanwhile : List MachineEvent)
    (preempted : (after config past).Preempted line meanwhile id frame resumed) :
    (¬((after config past).interrupt line).Delivers meanwhile id →
      resumed = interrupted frame line) ∧
    (((after config past).interrupt line).Delivers meanwhile id →
      resumed = (interrupted frame line).withResult 0 ∧
        ∃ env, (after config past).kernel.env? id = some env ∧ env.mailbox.receiving = true) := by
  have coupled := coupled_after config past
  obtain ⟨old, trapped, found, saved, frame_eq, mailbox_eq⟩ :=
    coupled.saved_of_interrupt preempted.running preempted.expected
  have begun := coupled.step (.interrupt line)
  obtain ⟨new, last, kept⟩ :=
    begun.parked_foldl saved meanwhile preempted.parked preempted.alive
  -- What the environment goes on with is what the kernel has kept for it.
  have back := preempted.back
  obtain ⟨env, named, same⟩ : ∃ env,
      (meanwhile.foldl step ((after config past).interrupt line)).kernel.env? id = some env ∧
        env.frame = resumed := by
    rcases List.eq_nil_or_concat' meanwhile with rfl | ⟨done, event, rfl⟩
    · obtain ⟨outcome, enters, next⟩ :=
        coupled.enters_of_raise preempted.running (TrapVector.irqBase + line) 0 0
      rw [List.foldl_nil, interrupt, next] at back ⊢
      exact coupled.saved_of_enters enters back
    · -- It was away until the last event, which gave the processor back.
      have parked := preempted.parked done event [] rfl
      rw [List.foldl_append, List.foldl_cons, List.foldl_nil] at back ⊢
      exact (begun.foldl done).saved_of_step event parked back
  obtain rfl : env = new := Option.some.inj (named.symm.trans last)
  rw [frame_eq, mailbox_eq, same] at kept
  rcases kept with ⟨silent, kept, -⟩ | ⟨delivers, kept, asked, -⟩
  · exact ⟨fun _ => kept, fun delivers => absurd delivers silent⟩
  · exact ⟨fun silent => absurd delivers silent, fun _ => ⟨kept, old, found, asked⟩⟩

/-- The machine once its kernel has given the processor to a slot. -/
def handed (kernel : Kernel) (slot : Slot) : Machine :=
  apply (.resume (kernel.envAt slot).id (kernel.envAt slot).frame, kernel.dispatched slot)

/-- With slots one and two taken, the search comes back to slot one after slot two. -/
theorem Coupled.handed_of_turn (coupled : machine.Coupled) {last : Kernel}
    (taken : machine.kernel.envs.free = (List.finRange slotCount).drop 3)
    (others : ∀ other, other ≠ slotAt 2 → last.envAt other = machine.kernel.envAt other)
    (turn : last.lastRun = some (slotAt 2))
    (ready : (machine.kernel.envAt (slotAt 1)).isRunnable = true) :
    apply last.reschedule = handed last (slotAt 1) := by
  -- The choice is that of the kernel, from the slot behind the last one.
  rw [handed, coupled.settled.toConsistent.reschedule_of_turn taken others turn ready]

/-- The machine once slot two has asked for a message and slot one runs. -/
def receiveTurn (machine : Machine) : Machine :=
  -- The caller waits with its result set, which a message will confirm.
  let frame := called (machine.frame?.getD {}) .receive { first := userTop }
  handed (((machine.kernel.saved (slotAt 2) frame).modifyEnv (slotAt 2) (·.waiting none)).withResult
    0) (slotAt 1)

/-- The machine once slot two has been interrupted by the timer and slot one runs. -/
def timerTurn (machine : Machine) : Machine :=
  -- The caller can go on, and only the clock has changed besides.
  let saved :=
    machine.kernel.saved (slotAt 2) (interrupted (machine.frame?.getD {}) TrapVector.timerLine)
  handed { saved with clock := saved.clock.tick } (slotAt 1)

/-- Slot two runs, and slot one is the only other one that is not free, except for the idle one. -/
structure SecondTurn (machine : Machine) (id : EnvId) : Prop where
  /-- Processor and kernel are coupled. -/
  coupled : machine.Coupled
  /-- The environment with the id has the processor. -/
  current_eq : machine.current = some id
  /-- Three slots are taken. -/
  taken : machine.kernel.envs.free = (List.finRange slotCount).drop 3
  /-- The processor belongs to the third of them. -/
  owns : machine.kernel.current = some (slotAt 2)
  /-- The search for the next environment starts behind it. -/
  turn : machine.kernel.lastRun = some (slotAt 2)
  /-- The second environment can run. -/
  ready : (machine.kernel.envAt (slotAt 1)).isRunnable = true

/-- The one in slot two waits for a message, and slot one runs. -/
theorem SecondTurn.step_receive (second : machine.SecondTurn id) :
    machine.step (.syscall .receive { first := userTop }) = machine.receiveTurn := by
  have running := cpu_of_current second.current_eq
  have owns := second.owns
  have resolved : Kernel.resolveLanding ({ first := userTop } : Arguments).first = .ok none := by
    decide +kernel
  rw [step_syscall running, receiveTurn]
  generalize machine.frame?.getD {} = frame at running
  have user : (called frame .receive { first := userTop }).fromUser = true :=
    second.coupled.userMode frame (by simp [frame?, running])
  rw [Kernel.trap_receive user owns (requests_called frame .receive _) 0 resolved]
  generalize blocks : (machine.kernel.saved (slotAt 2) _).modifyEnv (slotAt 2) _ = blocked
  have answered : blocked.withResult 0 = blocked.modifyEnv (slotAt 2) (·.withResult 0) := by
    rw [← blocks]
    simp only [Kernel.withResult, Kernel.saved, Kernel.modifyEnv, owns]
  -- Slot two waits now, and the search starts behind it.
  rw [answered]
  refine second.coupled.handed_of_turn second.taken (fun other different => ?_) ?_ second.ready
  · rw [Kernel.envAt_modifyEnv, if_neg different, ← blocks, Kernel.envAt_modifyEnv,
      if_neg different, Kernel.envAt_saved, if_neg different]
  · rw [← second.turn, ← blocks]
    rfl

/-- The one in slot two is interrupted, and slot one runs. -/
theorem SecondTurn.step_timer (second : machine.SecondTurn id) :
    machine.interrupt TrapVector.timerLine = machine.timerTurn := by
  have running := cpu_of_current second.current_eq
  have entry := step_interrupt running TrapVector.timerLine
  rw [timerTurn]
  generalize machine.frame?.getD {} = frame at running entry
  have user : (interrupted frame TrapVector.timerLine).fromUser = true :=
    second.coupled.userMode frame (by simp [frame?, running])
  have kind : TrapKind.ofVector (interrupted frame TrapVector.timerLine).vector = .timer := by
    show TrapKind.ofVector (TrapVector.irqBase + TrapVector.timerLine) = .timer
    decide
  rw [Kernel.trap_timer user second.owns kind] at entry
  refine entry.trans ?_
  dsimp only
  -- Only registers and clock have changed, and the search starts behind slot two.
  generalize (machine.kernel.saved (slotAt 2) _).clock.tick = clock
  refine second.coupled.handed_of_turn second.taken (fun other different => ?_) second.turn
    second.ready
  show (machine.kernel.saved (slotAt 2) _).envAt other = _
  rw [Kernel.envAt_saved, if_neg different]

/-- A parent in slot one and its child in slot two, which runs. -/
def childRuns : List MachineEvent :=
  [.create ⟨0, []⟩, .create ⟨0, []⟩, .boot, .syscall .fork {},
    .syscall .setStatus { first := 4098, second := 1 }, .interrupt TrapVector.timerLine]

/-- The parent releases its child from a receive, and the child goes on with 42 in a register. -/
def childReleased : List MachineEvent :=
  [.syscall .setStatus { first := 4098, second := 1 }, .interrupt TrapVector.timerLine,
    .setContext { regs := { eax := 42 } }]

/-- The parent stops its interrupted child and sends it a message. -/
def childStopped : List MachineEvent :=
  -- The child is not waiting for a message, but counts as if it were.
  [.syscall .setStatus { first := 4098, second := 2 },
    .syscall .trySend { first := 4098, second := 7, third := userTop },
    .interrupt TrapVector.timerLine]

/-- The machine when the child goes on, as it comes from the turns that were taken. -/
def goingOn : Machine :=
  childReleased.foldl step (after { frames := 16 } childRuns).receiveTurn

/-- Once its parent has released it, the child goes on without a message. -/
theorem after_childReleased :
    after { frames := 16 } (childRuns ++ .syscall .receive { first := userTop } :: childReleased) =
      goingOn := by
  -- The turns up to its wait are made by evaluation, and the wait by its own law.
  have second : (after { frames := 16 } childRuns).SecondTurn ⟨4098⟩ :=
    ⟨coupled_after _ _, by decide +kernel, by decide +kernel, by decide +kernel, by decide +kernel,
      by decide +kernel⟩
  rw [goingOn, ← second.step_receive, after, List.foldl_append, ← after, List.foldl_cons]

/-- The child runs in its turn after its release. -/
theorem secondTurn_childReleased :
    (after { frames := 16 } (childRuns ++ .syscall .receive { first := userTop } ::
      childReleased)).SecondTurn ⟨4098⟩ := by
  -- What has to hold of the machine is evaluated on its short form.
  refine ⟨coupled_after _ _, ?_, ?_, ?_, ?_, ?_⟩
  all_goals
    rw [after_childReleased]
    decide +kernel

/-- An interrupted child loses a register to the answer of a receive that was over long before. -/
theorem resumed_answered : ∃ frame resumed,
    (after { frames := 16 } (childRuns ++ .syscall .receive { first := userTop } ::
      childReleased)).Preempted TrapVector.timerLine childStopped ⟨4098⟩ frame resumed ∧
    frame.context.regs.eax = 42 ∧
    resumed = (interrupted frame TrapVector.timerLine).withResult 0 ∧
    resumed ≠ interrupted frame TrapVector.timerLine := by
  have second := secondTurn_childReleased
  have running := cpu_of_current second.current_eq
  have turned := second.step_timer
  rw [after_childReleased] at running turned ⊢
  have counts : goingOn.context.regs.eax = 42 := by decide +kernel
  -- What happens after the interrupt, up to every point in time.
  have parked : ∀ n < 3,
      ((childStopped.take n).foldl step goingOn.timerTurn).current ≠ some ⟨4098⟩ := by
    decide +kernel
  have alive : ∀ n < 4,
      (((childStopped.take n).foldl step goingOn.timerTurn).kernel.env? ⟨4098⟩).isSome = true := by
    decide +kernel
  have back : (childStopped.foldl step goingOn.timerTurn).current = some ⟨4098⟩ := by
    decide +kernel
  have loses : (childStopped.foldl step goingOn.timerTurn).context.regs.eax = 0 := by
    decide +kernel
  rw [← turned] at parked alive back loses
  have resumes := cpu_of_current back
  generalize (Option.getD _ _ : TrapFrame) = frame at running
  generalize (Option.getD _ _ : TrapFrame) = resumed at resumes
  have preempted : (after { frames := 16 } (childRuns ++ .syscall .receive { first := userTop } ::
      childReleased)).Preempted TrapVector.timerLine childStopped ⟨4098⟩ frame resumed := by
    rw [after_childReleased]
    refine ⟨running, .inl rfl, fun done event rest split => ?_, fun done before => ?_, resumes⟩
    · -- What has come so far is a prefix, and for every prefix it is known who runs.
      have short : done.length < 3 := by
        have lengths := congrArg List.length split
        simp only [childStopped, List.length_append, List.length_cons, List.length_nil] at lengths
        omega
      have begins : done = childStopped.take done.length := by simp [split]
      rw [begins]
      exact parked done.length short
    · rw [List.prefix_iff_eq_take.mp before]
      exact alive done.length (Nat.lt_succ_of_le before.length_le)
  rw [← after_childReleased]
  rw [context, running] at counts
  rw [context, resumes] at loses
  -- The counter has lost its value, and so an answer has come in between.
  have lost : resumed ≠ interrupted frame TrapVector.timerLine := by
    rintro rfl
    exact absurd (counts.symm.trans loses) (by decide)
  obtain ⟨silent, delivers⟩ := resumed_after _ _ _ preempted
  have delivered := by_contra fun quiet => lost (silent quiet)
  exact ⟨frame, resumed, preempted, counts, (delivers delivered).1, lost⟩

end Machine

end Exokernel
