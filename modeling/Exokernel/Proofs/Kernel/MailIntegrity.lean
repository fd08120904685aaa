import Exokernel.Proofs.Kernel.Mail

/-! Every receive is answered by at most one message, in every run. -/

namespace Exokernel.Kernel

variable {kernel : Kernel} {event : KernelEvent} {owner : Slot} {frame : TrapFrame}
  {words : Arguments} {target id : EnvId} {message : Message}

/-- The target of a send exists. -/
theorem Settled.env?_of_attempts (settled : kernel.Settled)
    (attempts : kernel.Attempts event owner frame words target) :
    kernel.env? target = some (kernel.envAt target.slot) := by
  refine env?_eq_some.mpr ⟨rfl, ?_, attempts.named⟩
  -- Either the sender has named itself, or an environment that was found.
  rcases EnvTable.find_ok attempts.found with ⟨-, self⟩ | ⟨-, live, -⟩
  · rw [← Option.some.inj self]
    exact (settled.running owner attempts.owns).1
  · exact live

/-- A send to an environment that has not asked for a message is refused. -/
theorem Attempts.refused (attempts : kernel.Attempts event owner frame words target)
    (idle : (kernel.envAt target.slot).mailbox.receiving = false) :
    kernel.sendResult owner frame words = .error .notReceiving := by
  have found := attempts.found
  rw [← kernel.find_saved owner frame] at found
  -- Saving the registers of the sender is no business of the mailbox.
  have savedIdle : ((kernel.saved owner frame).envAt target.slot).awaitsMessage = false := by
    rw [Env.awaitsMessage, (SameMail.saved kernel owner frame target.slot).mailbox_eq, idle]
    rfl
  have refused : (kernel.saved owner frame).resolveSend (.ofArguments words) =
      .error .notReceiving := resolveSend_refused attempts.owns found savedIdle
  rw [sendResult, trySend, refused]

/-- Through a part of a run, the environment with an id exists and gets no message. -/
def Silent (config : Config) (before rest : List KernelEvent) (id : EnvId) : Prop :=
  -- Each event is looked at in the state that it finds.
  ∀ done event, done ++ [event] <+: rest →
    ((after config (before ++ done ++ [event])).env? id).isSome = true ∧
      ∀ message, ¬(after config (before ++ done)).Sends event id message

/-- Messages arrive at most once for each receive, and mailboxes hold what arrived last. -/
structure MailIntegrity (config : Config) (events : List KernelEvent) : Prop where
  /-- Between two messages to the same id, the environment with that id asked for the second. -/
  answered : ∀ before first middle second rest id one other,
    events = before ++ first :: (middle ++ second :: rest) →
    (after config before).Sends first id one →
    (after config (before ++ first :: middle)).Sends second id other →
    ∃ left receive right, middle = left ++ receive :: right ∧
      (after config (before ++ first :: left)).Accepts receive id
  /-- After a message and before the next receive, every send is refused. -/
  refused : ∀ before first middle last rest id message owner frame words,
    events = before ++ first :: (middle ++ last :: rest) →
    (after config before).Sends first id message →
    (∀ left receive right, middle = left ++ receive :: right →
      ¬(after config (before ++ first :: left)).Accepts receive id) →
    (after config (before ++ first :: middle)).Attempts last owner frame words id →
    (after config (before ++ first :: middle)).sendResult owner frame words = .error .notReceiving
  /-- A send that does not succeed changes nothing but the registers of the sender. -/
  harmless : ∀ before rest id owner frame words error address,
    events = before ++ .trap frame address :: rest →
    (after config before).Attempts (.trap frame address) owner frame words id →
    (after config before).sendResult owner frame words = .error error →
    (after config before).Harmless owner frame error ((after config before).trap frame address)
  /-- A mailbox holds the last message since its environment was created, or nothing. -/
  mailbox : ∀ id env, (after config events).env? id = some env →
    (∃ before last rest message, events = before ++ last :: rest ∧
      (after config before).Sends last id message ∧ Silent config (before ++ [last]) rest id ∧
      env.mailbox.message = message) ∨
    ∃ before rest, events = before ++ rest ∧ (after config before).env? id = none ∧
      Silent config before rest id ∧ env.mailbox.message = Mailbox.message {}

/-- A run with one more event is one step longer. -/
theorem after_concat (config : Config) (events : List KernelEvent) (event : KernelEvent) :
    after config (events ++ [event]) = (after config events).step event := by
  -- The events are folded from the left.
  simp [after]

/-- Silence that lasts for one more event. -/
theorem Silent.concat {config : Config} {before rest : List KernelEvent}
    (silent : Silent config before rest id)
    (exists_ : ((after config (before ++ rest ++ [event])).env? id).isSome = true)
    (quiet : ∀ message, ¬(after config (before ++ rest)).Sends event id message) :
    Silent config before (rest ++ [event]) id := by
  intro done last inside
  -- Either the event is the last one, or it came before.
  rcases List.prefix_concat_iff.mp inside with whole | earlier
  · obtain ⟨rfl, same⟩ := List.append_inj' whole rfl
    obtain rfl := List.singleton_inj.mp same
    exact ⟨exists_, quiet⟩
  · exact silent done last earlier

/-- An environment that waits for a message after one has arrived has asked again. -/
theorem asked_of_receiving {config : Config} {before : List KernelEvent} {first : KernelEvent}
    (sends : (after config before).Sends first id message) (middle : List KernelEvent)
    {env : Env} (found : (after config (before ++ first :: middle)).env? id = some env)
    (receiving : env.mailbox.receiving = true) :
    ∃ left receive right, middle = left ++ receive :: right ∧
      (after config (before ++ first :: left)).Accepts receive id := by
  -- A message clears the flag of its receiver.
  have filled {kernel : Kernel} {event : KernelEvent} {message : Message} {env : Env}
      (settled : kernel.Settled) (sends : kernel.Sends event id message)
      (found : (kernel.step event).env? id = some env) : env.mailbox.receiving = false := by
    obtain ⟨old, -, -, named⟩ := settled.delivered_of_sends sends
    rw [found, Option.some.injEq] at named
    rw [named]
    rfl
  -- Induct on the events since the message, the last one first.
  induction middle using List.reverseRecOn generalizing env with
  | nil =>
    rw [after_concat] at found
    rw [filled (settled_after config before) sends found] at receiving
    simp at receiving
  | append_singleton middle event ih =>
    have longer : before ++ first :: (middle ++ [event]) =
        (before ++ first :: middle) ++ [event] := by simp
    rw [longer, after_concat] at found
    have settled := settled_after config (before ++ first :: middle)
    cases settled.mailStep found with
    | fresh absent empty =>
      rw [empty] at receiving
      simp at receiving
    | kept named same _ =>
      obtain ⟨left, receive, right, rfl, accepts⟩ := ih named (same ▸ receiving)
      exact ⟨left, receive, right ++ [event], by simp, accepts⟩
    | waits named accepts same => exact ⟨middle, event, [], rfl, accepts⟩
    | filled again =>
      rw [filled settled again found] at receiving
      simp at receiving

/-- A message is the last one that an environment was sent, or it has been sent none so far. -/
def Held (config : Config) (events : List KernelEvent) (id : EnvId) (held : Message) : Prop :=
  -- Before there was an environment with the id, nothing can have been sent to it.
  (∃ before last rest message, events = before ++ last :: rest ∧
    (after config before).Sends last id message ∧ Silent config (before ++ [last]) rest id ∧
    held = message) ∨
  ∃ before rest, events = before ++ rest ∧ (after config before).env? id = none ∧
    Silent config before rest id ∧ held = Mailbox.message {}

/-- After an event that is no message to the environment, what it holds is as old as before. -/
theorem Held.concat {config : Config} {events : List KernelEvent}
    (holds : Held config events id message)
    (now : ((after config (events ++ [event])).env? id).isSome = true)
    (quiet : ∀ other, ¬(after config events).Sends event id other) :
    Held config (events ++ [event]) id message := by
  -- In both cases the silence is one event longer.
  rcases holds with ⟨before, last, rest, sent, split, sends, silent, same⟩ |
    ⟨before, rest, split, absent, silent, same⟩
  · have whole : before ++ [last] ++ rest = events := by simp [split]
    refine .inl ⟨before, last, rest ++ [event], sent, by simp [split], sends, ?_, same⟩
    exact silent.concat (whole ▸ now) (whole ▸ quiet)
  · refine .inr ⟨before, rest ++ [event], by simp [split], absent, ?_, same⟩
    exact silent.concat (split ▸ now) (split ▸ quiet)

/-- A mailbox holds the last message since its environment was created, or nothing. -/
theorem held_after (config : Config) (events : List KernelEvent) {env : Env}
    (found : (after config events).env? id = some env) :
    Held config events id env.mailbox.message := by
  -- Induct on the run, the last event first.
  induction events using List.reverseRecOn generalizing env with
  | nil =>
    obtain ⟨here, live, -⟩ := env?_eq_some.mp found
    rw [← here] at live
    simp [after, boot, envAt, EnvTable.get_empty, Env.isLive] at live
  | append_singleton events event ih =>
    have now : ((after config (events ++ [event])).env? id).isSome = true := by rw [found]; rfl
    have settled := settled_after config events
    rw [after_concat] at found
    by_cases sent : ∃ message, (after config events).Sends event id message
    · -- The last event was the message.
      obtain ⟨message, sends⟩ := sent
      obtain ⟨old, -, -, named⟩ := settled.delivered_of_sends sends
      rw [found, Option.some.injEq] at named
      refine .inl ⟨events, event, [], message, rfl, sends, fun done last inside => ?_, ?_⟩
      · simp at inside
      · rw [named]
        rfl
    · have quiet (message : Message) : ¬(after config events).Sends event id message :=
        fun sends => sent ⟨message, sends⟩
      cases settled.mailStep found with
      | fresh absent empty =>
        -- The environment is there since the last event only.
        refine .inr ⟨events, [event], rfl, absent, ?_, by rw [empty]⟩
        have begins : Silent config events [] id := fun done last inside => by simp at inside
        exact begins.concat (by simpa using now) (by simpa using quiet)
      | kept named same _ =>
        rw [same]
        exact (ih named).concat now quiet
      | waits named accepts same =>
        rw [same]
        exact (ih named).concat now quiet
      | filled sends => exact absurd sends (quiet _)

/-- In every run, each receive is answered at most once and mailboxes hold the last message. -/
theorem mailIntegrity_after (config : Config) (events : List KernelEvent) :
    MailIntegrity config events where
  answered before first middle second rest id one other _ sends again := by
    obtain ⟨old, named, waits, -⟩ :=
      (settled_after config (before ++ first :: middle)).delivered_of_sends again
    simp only [Env.awaitsMessage, Bool.and_eq_true] at waits
    exact asked_of_receiving sends middle named waits.1
  refused before first middle last rest id message owner frame words _ sends unasked attempts := by
    -- Had the target asked for another message, it would have done so in the meantime.
    refine attempts.refused (Bool.eq_false_iff.mpr fun receiving => ?_)
    have named := (settled_after config (before ++ first :: middle)).env?_of_attempts attempts
    obtain ⟨left, receive, right, split, accepts⟩ :=
      asked_of_receiving sends middle named receiving
    exact unasked left receive right split accepts
  harmless before rest id owner frame words error address _ attempts failed :=
    (settled_after config before).harmless attempts failed address
  mailbox id env found := held_after config events found

end Exokernel.Kernel
