import Exokernel.Proofs.Kernel.MailIntegrity
import Exokernel.Proofs.Traps

/-! An environment that waits for a message runs again because of one, or because it is started. -/

namespace Exokernel.Kernel

variable {kernel acted : Kernel} {event : KernelEvent} {owner slot : Slot} {frame : TrapFrame}
  {id : EnvId} {old new : Env}

/-- What the kernel decides at the end of an event, if the event enters it. -/
def decision? (kernel : Kernel) : KernelEvent → Option Dispatch
  -- Creations and input from outside leave the processor as it is.
  | .trap frame address => some (kernel.trap frame address).1
  | .reschedule => some kernel.reschedule.1
  | _ => none

/-- An event ends with the processor given to the environment with an id. -/
def Dispatches (kernel : Kernel) (event : KernelEvent) (id : EnvId) : Prop :=
  ∃ frame, kernel.decision? event = some (.resume id frame)

/-- An event is a trap of the environment with an id. -/
def Traps (kernel : Kernel) (event : KernelEvent) (id : EnvId) : Prop :=
  kernel.currentId = some id ∧
    ∃ frame address, event = .trap frame address ∧ frame.fromUser = true

/-- In an event the environment with an id is made runnable by itself or by its creator. -/
def Starts (kernel : Kernel) (event : KernelEvent) (id : EnvId) : Prop :=
  -- The target is looked up as the call does it, with the caller's registers saved.
  ∃ owner frame words, kernel.Asks event owner frame .setStatus words ∧
    settableStatus words.second = .ok .runnable ∧
    (kernel.saved owner frame).findOwned ⟨words.first⟩ = .ok id.slot ∧
    (kernel.envAt id.slot).id = id

/-- Through a part of a run exactly one message reaches the environment with an id. -/
def OneMessage (config : Config) (before rest : List KernelEvent) (id : EnvId) : Prop :=
  -- Before and after the send there is none.
  ∃ left send right message, rest = left ++ send :: right ∧
    (after config (before ++ left)).Sends send id message ∧ Silent config before left id ∧
    Silent config (before ++ (left ++ [send])) right id

/-- Whoever makes a system call is running under its own id. -/
theorem Asks.traps {call : Syscall} {words : Arguments}
    (asks : kernel.Asks event owner frame call words) (named : (kernel.envAt owner).id = id) :
    kernel.Traps event id := by
  -- A call is a trap from user mode, made by the owner of the processor.
  obtain ⟨⟨address, same⟩, user, owns, -⟩ := asks
  exact ⟨by rw [currentId, owns, Option.map_some, named], frame, address, same, user⟩

/-- Whoever is given the processor exists under its id, and can run. -/
theorem Settled.ready_of_dispatches (settled : kernel.Settled)
    (dispatches : kernel.Dispatches event id) :
    ∃ env, (kernel.step event).env? id = some env ∧ env.status = .runnable := by
  obtain ⟨resumed, decided⟩ := dispatches
  cases event with
  | trap frame address =>
    simp only [decision?, Option.some.injEq] at decided
    obtain ⟨last, leads, ends | ⟨cause, stops⟩⟩ := settled.trap_ends frame address
    · exact (ends.resume_eq leads.consistent decided).2
    · -- A kernel that stops gives the processor to nobody.
      rw [stops] at decided
      simp [halt] at decided
  | reschedule =>
    simp only [decision?, Option.some.injEq] at decided
    exact (kernel.ends_reschedule.resume_eq settled.toConsistent decided).2
  | _ => simp [decision?] at decided

/--
A blocked environment can run after the effect of a trap if it was delivered a message, or if its
creator has made it runnable.
-/
theorem Consistent.woken_effect (consistent : kernel.Consistent)
    (owns : kernel.current = some owner) {address : Address} {answer : Option Word}
    (effect : Effect kernel owner frame address acted answer)
    (blocked : (kernel.envAt slot).status = .notRunnable)
    (ready : (acted.envAt slot).status = .runnable) (different : slot ≠ owner) :
    ((kernel.envAt slot).mailbox.receiving = true ∧
      (acted.envAt slot).mailbox.receiving = false) ∨
    ∃ words, frame.Requests .setStatus words ∧ settableStatus words.second = .ok .runnable ∧
      kernel.findOwned ⟨words.first⟩ = .ok slot := by
  -- One case for each thing that can become of the slot: most leave it blocked, or its own trap.
  cases consistent.slotEffect effect slot with
  | kept same =>
    rw [same, blocked] at ready
    simp at ready
  | faulted own | exited own | waits own => exact absurd own different
  | destroyed request found vacated =>
    rw [vacated] at ready
    simp [Env.vacated] at ready
  | statusSet request settable found set =>
    rw [set] at ready
    exact .inr ⟨_, request, ready ▸ settable, found⟩
  | entrySet request found set =>
    rw [set] at ready
    simp [blocked] at ready
  | filled request resolved placed reached accepted =>
    obtain ⟨-, waits, -⟩ := resolveSend_ok owns resolved
    simp only [reached, Env.awaitsMessage, Bool.and_eq_true] at waits
    exact .inl ⟨waits.1, by rw [accepted]; rfl⟩
  | born request dead =>
    -- A slot that is free is not blocked.
    simp [Env.isLive, blocked] at dead

/-- A trap that leaves the mailbox alone makes a blocked environment runnable only by a start. -/
theorem Settled.woken_trap (settled : kernel.Settled) {address : Address}
    (blocked : (kernel.envAt slot).status = .notRunnable)
    (ready : ((kernel.step (.trap frame address)).envAt slot).status = .runnable)
    (same : ((kernel.step (.trap frame address)).envAt slot).mailbox =
      (kernel.envAt slot).mailbox) :
    ∃ owner words, kernel.Asks (.trap frame address) owner frame .setStatus words ∧
      settableStatus words.second = .ok .runnable ∧
      (kernel.saved owner frame).findOwned ⟨words.first⟩ = .ok slot := by
  have unchanged (same : ((kernel.step (.trap frame address)).envAt slot).status =
      (kernel.envAt slot).status) : False := by
    rw [same, blocked] at ready
    simp at ready
  cases settled.trapCourse frame address with
  | outside unowned undisturbed =>
    obtain ⟨runs, kept⟩ := undisturbed.envs slot
    exact (unchanged (by rw [Kernel.step, kept])).elim
  | @owned owner acted answer user current effect ends =>
    -- The owner of the processor is runnable, so it is not the one that slept.
    have different : slot ≠ owner := by
      rintro rfl
      have running := settled.ready slot current
      rw [Env.isRunnable, blocked] at running
      simp at running
    obtain ⟨consistent, owns, -⟩ := settled.saved user current
    have saved : (kernel.saved owner frame).envAt slot = kernel.envAt slot := by
      rw [envAt_saved, if_neg different]
    -- Neither the answer nor the choice of the next environment changes a status.
    have status : ((kernel.step (.trap frame address)).envAt slot).status =
        (acted.envAt slot).status :=
      (ends.status_eq slot).trans (acted.answered_keeps answer slot).2.2
    have mail : ((kernel.step (.trap frame address)).envAt slot).mailbox =
        (acted.envAt slot).mailbox :=
      ((SameMail.answered acted answer slot).trans (.ends ends slot)).mailbox_eq
    rw [status] at ready
    rcases consistent.woken_effect owns effect (saved ▸ blocked) ready different with
      ⟨asked, done⟩ | ⟨words, request, settable, found⟩
    · -- The flag of a delivered message would show in the mailbox.
      rw [← mail, same, ← saved, asked] at done
      simp at done
    · exact ⟨owner, words, ⟨⟨address, rfl⟩, user, current, request⟩, settable, found⟩

/-- A blocked environment becomes runnable by a message, or because its creator starts it. -/
theorem Settled.woken (settled : kernel.Settled) (before : kernel.env? id = some old)
    (blocked : old.status = .notRunnable) (after : (kernel.step event).env? id = some new)
    (ready : new.status = .runnable) :
    (∃ message, kernel.Sends event id message) ∨ kernel.Starts event id := by
  obtain ⟨here, live, named⟩ := env?_eq_some.mp before
  obtain ⟨there, -, -⟩ := env?_eq_some.mp after
  rw [← here] at blocked live named
  rw [← there] at ready
  have unchanged (same : ((kernel.step event).envAt id.slot).status =
      (kernel.envAt id.slot).status) : False := by
    rw [same, blocked] at ready
    simp at ready
  -- What the mailbox tells comes first: it shows every message.
  cases settled.mailStep after with
  | fresh absent => simp [absent] at before
  | filled sends => exact .inl ⟨_, sends⟩
  -- Whoever receives was running, and so it did not sleep.
  | waits found accepts =>
    obtain ⟨caller, _, _, asks, same, -⟩ := accepts
    have running := settled.ready caller asks.owns
    have home : id.slot = caller := by
      rw [← same]
      exact settled.envs.slot_id (Env.isLive_of_isRunnable running)
    rw [← home, Env.isRunnable, blocked] at running
    simp at running
  | kept found same =>
    rw [before, Option.some.injEq] at found
    rw [← found, ← here, ← there] at same
    cases event with
    | create image =>
      have kept := (settled.toConsistent.createEnv_outside image).2 id.slot live
      exact (unchanged (congrArg Env.status kept)).elim
    | trap frame address =>
      obtain ⟨owner, words, asks, settable, found⟩ := settled.woken_trap blocked ready same
      exact .inr ⟨owner, frame, words, asks, settable, found, named⟩
    | reschedule => exact (unchanged (kernel.ends_reschedule.status_eq id.slot)).elim
    | _ => exact (unchanged rfl).elim

/-- Whoever has asked for a message is blocked until something else happens to it. -/
theorem Settled.blocked_of_accepts (settled : kernel.Settled)
    (accepts : kernel.Accepts event id) : ∃ env, (kernel.step event).env? id = some env ∧
      env.status = .notRunnable ∧ env.mailbox.receiving = true := by
  obtain ⟨owner, frame, words, ⟨⟨address, rfl⟩, user, owns, request⟩, named, accepted⟩ := accepts
  have live := Env.isLive_of_isRunnable (settled.ready owner owns)
  have home : id.slot = owner := by
    rw [← named]
    exact settled.envs.slot_id live
  have savedOwns : (kernel.saved owner frame).current = some owner := owns
  -- A receive that is accepted has a place where pages land, or refuses them.
  obtain ⟨landing, resolved⟩ : ∃ landing, resolveLanding words.first = .ok landing := by
    simp only [receive, Kernel.owner, savedOwns] at accepted
    cases resolved : resolveLanding words.first with
    | error error => simp [resolved] at accepted
    | ok landing => exact ⟨landing, rfl⟩
  have entered := trap_receive user owns request address resolved
  generalize moved : (kernel.saved owner frame).modifyEnv owner (·.waiting landing) = acted
    at entered
  have waiting : acted.envAt owner = { kernel.envAt owner with frame }.waiting landing := by
    rw [← moved, envAt_modifyEnv, if_pos rfl, envAt_saved, if_pos rfl]
  -- What follows is the answer and the choice of the next environment.
  have ends := (acted.withResult 0).ends_reschedule
  have same : SameMail acted (kernel.step (.trap frame address)) owner := by
    rw [Kernel.step, entered]
    exact (SameMail.answered acted (some 0) owner).trans (.ends ends owner)
  have answered : ((acted.withResult 0).envAt owner).status = (acted.envAt owner).status :=
    (acted.answered_keeps (some 0) owner).2.2
  have status : ((kernel.step (.trap frame address)).envAt owner).status = .notRunnable := by
    rw [Kernel.step, entered, ends.status_eq, answered, waiting]
    rfl
  refine ⟨_, env?_eq_some.mpr ⟨rfl, ?_, ?_⟩, ?_, ?_⟩
  · rw [home, Env.isLive, status]
    rfl
  · rw [home, same.id_eq, waiting]
    exact named
  · rw [home, status]
  · rw [home, same.mailbox_eq, waiting]
    rfl

/-- An environment asks for a message, and later it is given the processor. -/
structure Resumes (config : Config) (before : List KernelEvent) (receive : KernelEvent)
    (meanwhile : List KernelEvent) (last : KernelEvent) (id : EnvId) : Prop where
  /-- The environment asks for a message, and the kernel accepts. -/
  accepts : (after config before).Accepts receive id
  /-- It does not trap again. -/
  latest : ∀ left event right, meanwhile ++ [last] = left ++ event :: right →
    ¬(after config (before ++ receive :: left)).Traps event id
  /-- It is not destroyed. -/
  alive : ∀ left, left <+: meanwhile →
    ((after config (before ++ receive :: left)).env? id).isSome = true
  /-- It is given the processor. -/
  dispatches : (after config (before ++ receive :: meanwhile)).Dispatches last id

/-- What has become of a receive, after the events since then. -/
inductive Awaited (config : Config) (before : List KernelEvent) (receive : KernelEvent)
    (events : List KernelEvent) (id : EnvId) (env : Env) : Prop where
  /-- Exactly one message has come, and no other is asked for. -/
  | served (message : OneMessage config (before ++ [receive]) events id)
      (done : env.mailbox.receiving = false)
  /-- No message has come, and the environment is blocked unless it was started. -/
  | waiting (silent : Silent config (before ++ [receive]) events id)
      (asks : env.mailbox.receiving = true)
      (started : env.status = .runnable → ∃ left start right, events = left ++ start :: right ∧
        (after config (before ++ receive :: left)).Starts start id)

namespace Awaited

variable {config : Config} {before events : List KernelEvent} {receive : KernelEvent}

/-- Right after a receive its environment is blocked. -/
theorem accepted (accepts : (after config before).Accepts receive id)
    (found : (after config (before ++ [receive])).env? id = some new) :
    Awaited config before receive [] id new := by
  -- A receive blocks its caller, which nobody could start in the same step.
  rw [after_concat] at found
  obtain ⟨env, named, blocked, asked⟩ := (settled_after config before).blocked_of_accepts accepts
  obtain rfl := Option.some.inj (found.symm.trans named)
  refine .waiting (fun done event inside => by simp at inside) asked fun ready => ?_
  rw [blocked] at ready
  simp at ready

/-- A message comes only while the environment asks for one, and so for the first time. -/
theorem sent {message : Message} (awaited : Awaited config before receive events id old)
    (named : (after config (before ++ receive :: events)).env? id = some old)
    (sends : (after config (before ++ receive :: events)).Sends event id message)
    (found : ((after config (before ++ receive :: events)).step event).env? id = some new) :
    Awaited config before receive (events ++ [event]) id new := by
  -- The environment was still asking, so that no message had come before.
  have joined : before ++ receive :: events = before ++ [receive] ++ events := by simp
  obtain ⟨asker, same, waits, filled⟩ := (settled_after config _).delivered_of_sends sends
  obtain rfl := Option.some.inj (named.symm.trans same)
  obtain rfl := Option.some.inj (found.symm.trans filled)
  simp only [Env.awaitsMessage, Bool.and_eq_true] at waits
  cases awaited with
  | served message done =>
    rw [waits.1] at done
    simp at done
  | waiting silent asks started =>
    refine .served ⟨events, event, [], message, rfl, joined ▸ sends, silent, ?_⟩ rfl
    exact fun done last inside => by simp at inside

/-- Without a message nothing is asked for anew, and only a start ends the wait. -/
theorem quiet (awaited : Awaited config before receive events id old)
    (named : (after config (before ++ receive :: events)).env? id = some old)
    (other : ¬(after config (before ++ receive :: events)).Traps event id)
    (unsent : ∀ message, ¬(after config (before ++ receive :: events)).Sends event id message)
    (found : ((after config (before ++ receive :: events)).step event).env? id = some new) :
    Awaited config before receive (events ++ [event]) id new := by
  have settled := settled_after config (before ++ receive :: events)
  have joined : before ++ receive :: events = before ++ [receive] ++ events := by simp
  have now : ((after config (before ++ [receive] ++ events ++ [event])).env? id).isSome = true := by
    rw [after_concat, ← joined, found]
    rfl
  -- The flag stays, because only the environment itself could set it.
  have flag : new.mailbox.receiving = old.mailbox.receiving := by
    cases settled.mailStep found with
    | fresh absent => simp [absent] at named
    | kept there same =>
      obtain rfl := Option.some.inj (named.symm.trans there)
      rw [same]
    | waits there again =>
      obtain ⟨owner, frame, words, asks, own, -⟩ := again
      exact absurd (asks.traps own) other
    | filled sends => exact absurd sends (unsent _)
  -- Either it has its message already, or it still waits and no message has come.
  cases awaited with
  | served message done =>
    obtain ⟨left, send, right, message, rfl, sends, first, second⟩ := message
    refine .served ⟨left, send, right ++ [event], message, by simp, sends, first, ?_⟩ (flag ▸ done)
    have whole : before ++ [receive] ++ (left ++ [send]) ++ right =
        before ++ [receive] ++ (left ++ send :: right) := by simp
    exact second.concat (whole ▸ now) (whole ▸ joined ▸ unsent)
  | waiting silent asks started =>
    refine .waiting (silent.concat now (joined ▸ unsent)) (flag ▸ asks) fun ready => ?_
    obtain ⟨here, live, -⟩ := env?_eq_some.mp named
    have states : old.status = .runnable ∨ old.status = .notRunnable := by
      rw [← here] at live ⊢
      exact settled.envs.status_cases live
    rcases states with runs | blocked
    · -- It was started earlier.
      obtain ⟨left, start, right, rfl, starts⟩ := started runs
      exact ⟨left, start, right ++ [event], by simp, starts⟩
    · rcases settled.woken named blocked found ready with ⟨message, sends⟩ | starts
      · exact absurd sends (unsent message)
      · exact ⟨events, event, [], rfl, starts⟩

end Awaited

/-- While its environment lives and does not trap, a receive is served or waits. -/
theorem awaited_after {config : Config} {before : List KernelEvent} {receive : KernelEvent}
    (accepts : (after config before).Accepts receive id) (events : List KernelEvent)
    (latest : ∀ left event right, events = left ++ event :: right →
      ¬(after config (before ++ receive :: left)).Traps event id)
    (alive : ∀ left, left <+: events →
      ((after config (before ++ receive :: left)).env? id).isSome = true)
    (found : (after config (before ++ receive :: events)).env? id = some new) :
    Awaited config before receive events id new := by
  -- Induct on the events since the receive, the last one first.
  induction events using List.reverseRecOn generalizing new with
  | nil => exact .accepted accepts found
  | append_singleton events event ih =>
    obtain ⟨old, named⟩ := Option.isSome_iff_exists.mp (alive events (List.prefix_append _ _))
    have earlier := ih
      (fun left last right split => latest left last (right ++ [event]) (by simp [split]))
      (fun left inside => alive left (inside.trans (List.prefix_append _ _))) named
    have longer : before ++ receive :: (events ++ [event]) =
        (before ++ receive :: events) ++ [event] := by simp
    rw [longer, after_concat] at found
    by_cases sent : ∃ message, (after config (before ++ receive :: events)).Sends event id message
    · obtain ⟨message, sends⟩ := sent
      exact earlier.sent named sends found
    · exact earlier.quiet named (latest events event [] rfl) (not_exists.mp sent) found

/--
An environment that has asked for a message runs again once exactly one message has come. The one
exception is an environment that its creator makes runnable without any message.
-/
theorem woken_after (config : Config) (before meanwhile : List KernelEvent)
    (receive last : KernelEvent) (id : EnvId)
    (resumes : Resumes config before receive meanwhile last id) :
    OneMessage config (before ++ [receive]) (meanwhile ++ [last]) id ∨
    Silent config (before ++ [receive]) (meanwhile ++ [last]) id ∧
      ∃ left start right, meanwhile ++ [last] = left ++ start :: right ∧
        (after config (before ++ receive :: left)).Starts start id := by
  have settled := settled_after config (before ++ receive :: meanwhile)
  obtain ⟨env, found, ready⟩ := settled.ready_of_dispatches resumes.dispatches
  have longer : before ++ receive :: (meanwhile ++ [last]) =
      (before ++ receive :: meanwhile) ++ [last] := by simp
  rw [← after_concat, ← longer] at found
  have alive (left : List KernelEvent) (inside : left <+: meanwhile ++ [last]) :
      ((after config (before ++ receive :: left)).env? id).isSome = true := by
    -- The last event leaves the environment there, because it is the one that runs.
    rcases List.prefix_concat_iff.mp inside with rfl | earlier
    · rw [found]
      rfl
    · exact resumes.alive left earlier
  cases awaited_after resumes.accepts (meanwhile ++ [last]) resumes.latest alive found with
  | served message => exact .inl message
  | waiting silent _ started => exact .inr ⟨silent, started ready⟩

/-- The timer interrupts the running environment. -/
def timerEvent : KernelEvent :=
  .trap (Machine.interrupted .initial TrapVector.timerLine) 0

/-- A system call asks for nothing but its own call. -/
theorem call_of_asks {call other : Syscall} {words others : Arguments}
    (asks : kernel.Asks (callEvent call words) owner frame other others) : call = other := by
  -- The number in its registers is the call's.
  obtain ⟨address, same⟩ := asks.event_eq
  rw [callEvent, KernelEvent.trap.injEq] at same
  have numbers := asks.request.number
  rw [← same.1, (Machine.requests_called .initial call words).number] at numbers
  exact Except.ok.inj numbers

/-- The timer asks for no call. -/
theorem not_asks_timerEvent {call : Syscall} {words : Arguments} :
    ¬kernel.Asks timerEvent owner frame call words := by
  -- Its vector is not that of a call.
  rintro ⟨⟨address, same⟩, -, -, request⟩
  rw [timerEvent, KernelEvent.trap.injEq] at same
  have kind := request.kind
  rw [← same.1] at kind
  exact absurd kind (by decide)

/-- A parent in slot one starts its child in slot two, which gets the processor. -/
def childStarted : List KernelEvent :=
  [.create ⟨0, []⟩, .create ⟨0, []⟩, .reschedule, callEvent .fork {},
    callEvent .setStatus { first := 4098, second := 1 }, timerEvent]

/-- The kernel once the child waits for a message and the parent has the processor. -/
def childWaits : Kernel :=
  -- The child's registers are saved, it is blocked and answered, and the parent dispatched.
  (((after { frames := 16 } childStarted).saved (slotAt 2)
      (Machine.called .initial .receive { first := userTop })).modifyEnv (slotAt 2)
    (·.waiting none)).withResult 0 |>.dispatched (slotAt 1)

/-- The run is the one in which the child has asked for a message. -/
theorem after_childWaits :
    after { frames := 16 } (childStarted ++ [callEvent .receive { first := userTop }]) =
      childWaits := by
  have settled := settled_after { frames := 16 } childStarted
  have owns : (after { frames := 16 } childStarted).current = some (slotAt 2) := by decide +kernel
  have turn : (after { frames := 16 } childStarted).lastRun = some (slotAt 2) := by decide +kernel
  have taken : (after { frames := 16 } childStarted).envs.free =
      (List.finRange slotCount).drop 3 := by decide +kernel
  have ready : ((after { frames := 16 } childStarted).envAt (slotAt 1)).isRunnable = true := by
    decide +kernel
  have resolved : resolveLanding ({ first := userTop } : Arguments).first = .ok none := by
    decide +kernel
  rw [after_concat, callEvent, step, trap_receive (by decide) owns
    (Machine.requests_called .initial .receive _) 0 resolved, childWaits]
  generalize after { frames := 16 } childStarted = kernel at *
  have answered : ((kernel.saved (slotAt 2) (Machine.called .initial .receive
      { first := userTop })).modifyEnv (slotAt 2) (·.waiting none)).withResult 0 =
      ((kernel.saved (slotAt 2) (Machine.called .initial .receive
        { first := userTop })).modifyEnv (slotAt 2) (·.waiting none)).modifyEnv (slotAt 2)
        (·.withResult 0) := by
    simp only [withResult, saved, modifyEnv, owns]
  -- The search for the next environment goes once around the table.
  rw [settled.toConsistent.reschedule_of_turn taken (fun other different => ?_) ?_ ready]
  · rw [answered]
    exact turn
  · rw [answered, envAt_modifyEnv, if_neg different, envAt_modifyEnv, if_neg different,
      envAt_saved, if_neg different]

/-- A child that waits for a message runs again without one, because its parent starts it. -/
theorem woken_released :
    Resumes { frames := 16 } childStarted (callEvent .receive { first := userTop })
      [callEvent .setStatus { first := 4098, second := 1 }] timerEvent ⟨4098⟩ ∧
    Silent { frames := 16 } (childStarted ++ [callEvent .receive { first := userTop }])
      ([callEvent .setStatus { first := 4098, second := 1 }] ++ [timerEvent]) ⟨4098⟩ := by
  have resumes : Resumes { frames := 16 } childStarted (callEvent .receive { first := userTop })
      [callEvent .setStatus { first := 4098, second := 1 }] timerEvent ⟨4098⟩ := by
    generalize meanwhile : [callEvent .setStatus { first := 4098, second := 1 }] = events
    have later (events : List KernelEvent) :
        after { frames := 16 } (childStarted ++ callEvent .receive { first := userTop } :: events) =
          events.foldl step childWaits := by
      rw [List.append_cons, ← after_childWaits, after, List.foldl_append, ← after]
    -- What holds up to every point in time, while the parent runs.
    have parked : ∀ n < 2, (((events ++ [timerEvent]).take n).foldl step childWaits).currentId ≠
        some ⟨4098⟩ := by
      rw [← meanwhile]
      decide +kernel
    have there : ∀ n < 2, (((events.take n).foldl step childWaits).env? ⟨4098⟩).isSome = true := by
      rw [← meanwhile]
      decide +kernel
    have last : (events.foldl step childWaits).decision? timerEvent =
        some (.resume ⟨4098⟩ ((events.foldl step childWaits).envAt (slotAt 2)).frame) := by
      rw [← meanwhile]
      decide +kernel
    have short : events.length < 2 := by simp [← meanwhile]
    refine ⟨?_, fun left event right split => ?_, fun left inside => ?_, ?_⟩
    · refine ⟨slotAt 2, Machine.called .initial .receive { first := userTop }, { first := userTop },
        ⟨⟨0, rfl⟩, by decide, by decide +kernel, Machine.requests_called .initial .receive _⟩,
        by decide +kernel, by decide +kernel⟩
    · have bound := congrArg List.length split
      simp only [List.length_append, List.length_cons, List.length_nil] at bound
      have begins : left = (events ++ [timerEvent]).take left.length := by simp [split]
      rw [later, begins]
      exact fun traps => parked _ (by omega) traps.1
    · rw [later, List.prefix_iff_eq_take.mp inside]
      exact there _ (inside.length_le.trans_lt short)
    · exact ⟨_, (later events).symm ▸ last⟩
  refine ⟨resumes, ?_⟩
  -- Neither of the two events is a send.
  rcases woken_after _ _ _ _ _ _ resumes with
    ⟨left, send, right, message, split, sends, -⟩ | ⟨silent, -⟩
  · obtain ⟨sender, frame, words, answer, attempts, -⟩ := sends
    have member : send ∈ [callEvent .setStatus { first := 4098, second := 1 }, timerEvent] := by
      rw [← List.singleton_append, split]
      simp
    rcases List.mem_pair.mp member with rfl | rfl
    · exact absurd (call_of_asks attempts.toAsks) (by decide)
    · exact absurd attempts.toAsks not_asks_timerEvent
  · exact silent

end Exokernel.Kernel
