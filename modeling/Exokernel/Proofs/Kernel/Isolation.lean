import Exokernel.Proofs.Kernel.Runs
import Exokernel.Proofs.Kernel.Spares

/-! An environment is out of reach of all environments but itself and its creator. -/

namespace Exokernel

/-- The processor is given to the environment with an id. -/
def Dispatch.resumes (decision : Dispatch) (id : EnvId) : Bool :=
  -- A kernel that stops gives the processor to nobody.
  match decision with
  | .resume env _ => env == id
  | .halt _ => false

namespace Kernel

/-- A kernel entry leaves an environment alone, except that it may give the processor to it. -/
structure Untouched (kernel : Kernel) (outcome : Dispatch × Kernel) (slot : Slot) : Prop where
  /-- Only the run counter may move, by one, and only if the environment is the one to run. -/
  env_eq : outcome.2.envAt slot =
    { kernel.envAt slot with
      runs := (kernel.envAt slot).runs +
        if outcome.1.resumes (kernel.envAt slot).id then 1 else 0 }
  /-- The page table of its space is the same. -/
  table_eq : ∀ space, (kernel.envAt slot).space = some space →
    outcome.2.memory.table? space = kernel.memory.table? space

/-- A trap delivers a message, with or without a page, to an environment that waits for one. -/
structure Receives (kernel : Kernel) (sender receiver : Slot) (frame : TrapFrame)
    (words : Arguments) (page : Option PlannedMapping) (next : Kernel) : Prop where
  /-- The trap asks for a message to be sent. -/
  request : frame.Requests .trySend words
  /-- The message is for the receiver. -/
  target : (kernel.envAt receiver).id = ⟨words.first⟩
  /-- The receiver is blocked and has asked for a message. -/
  waited : (kernel.envAt receiver).status = .notRunnable ∧
    (kernel.envAt receiver).mailbox.receiving = true
  /-- The call succeeds. -/
  succeeds : ∃ value, ((kernel.saved sender frame).trySend (.ofArguments words)).1 = .ok value
  /-- The page is the one that the request sends along. -/
  page_eq :
    (kernel.saved sender frame).resolvePage sender receiver (.ofArguments words) = .ok page
  /-- The page goes where the receiver wants it. -/
  landing : ∀ planned, page = some planned →
    (kernel.envAt receiver).mailbox.landing = some planned.va
  /-- The receiver can run again, has the message, and finds a zero in its result register. -/
  env_eq : next.envAt receiver =
    { kernel.envAt receiver with
      status := .runnable
      frame := (kernel.envAt receiver).frame.withResult 0
      mailbox :=
        { (kernel.envAt receiver).mailbox with
          receiving := false
          sender := (kernel.envAt sender).id
          value := words.second
          permission := (page.map PlannedMapping.flags).getD .empty } }
  /-- At most the page that the message brings is mapped differently. -/
  mappings : ∀ space va, (kernel.envAt receiver).space = some space →
    next.memory.entryAt? space va =
      match page with
      | some planned =>
        if pageNumber va = pageNumber planned.va then
          some { frame := planned.frame, flags := planned.flags ||| .present }
        else kernel.memory.entryAt? space va
      | none => kernel.memory.entryAt? space va

variable {kernel next : Kernel} {slot owner other : Slot} {frame : TrapFrame} {address : Address}

/-- Giving the processor away moves at most a run counter. -/
theorem Consistent.untouched_ends (consistent : kernel.Consistent) {outcome : Dispatch × Kernel}
    (ends : kernel.Ends outcome) (live : (kernel.envAt other).isLive = true) :
    kernel.Untouched outcome other := by
  -- Only the environment that is dispatched is changed, and only in its run counter.
  cases ends with
  | resume slot ready =>
    refine ⟨?_, fun _ _ => rfl⟩
    rw [envAt_dispatched]
    split
    · rename_i same
      simp [Dispatch.resumes, same]
    · rename_i different
      -- Another slot means another id.
      have ids : (kernel.envAt slot).id ≠ (kernel.envAt other).id := fun same =>
        different (consistent.envs.id_injective (Env.isLive_of_isRunnable ready) live same).symm
      simp [Dispatch.resumes, ids]
  | idle =>
    refine ⟨?_, fun _ _ => rfl⟩
    simp [Dispatch.resumes, stopped, Kernel.halt, enterMonitor, envAt]

/-- What is spared and then left alone is left alone. -/
theorem Spares.untouched {outcome : Dispatch × Kernel} (spared : Spares kernel next slot)
    (untouched : next.Untouched outcome slot) : kernel.Untouched outcome slot where
  env_eq := by
    -- The record and the page table are the same at both steps.
    have env := untouched.env_eq
    rwa [spared.env_eq] at env
  table_eq space held := by
    rw [untouched.table_eq space (by rw [spared.env_eq, held]), spared.table_eq space held]

/-- The answer to a system call changes no memory, no owner and no status. -/
theorem answered_keeps (kernel : Kernel) (answer : Option Word) (slot : Slot) :
    (kernel.answered answer).memory = kernel.memory ∧
      (kernel.answered answer).current = kernel.current ∧
      ((kernel.answered answer).envAt slot).status = (kernel.envAt slot).status := by
  -- The word goes to a saved register.
  rcases kernel.answered_cases answer with same | ⟨owner, value, -, same⟩ <;> rw [same]
  · exact ⟨rfl, rfl, rfl⟩
  · exact ⟨rfl, rfl, view_modifyEnv Env.status kernel owner slot rfl⟩

/-- Nobody becomes the owner of the processor before the next environment is chosen. -/
theorem current_effect (owns : kernel.current = some owner) {acted : Kernel} {answer : Option Word}
    (effect : Effect kernel owner frame address acted answer) :
    acted.current = some owner ∨ acted.current = none := by
  -- Only the end of the owner itself takes the processor away from it.
  cases effect with
  | exit => exact .inr rfl
  | fork value request allocated =>
    obtain ⟨rest, memory, -, -, rfl⟩ := allocEnv_ok allocated
    exact .inl owns
  | unforked request refused =>
    rcases allocEnv_error refused with rfl | ⟨-, memory, -, rfl⟩ <;> exact .inl owns
  | _ => exact .inl owns

/-- Whoever gets an answer has kept the processor until then. -/
theorem current_of_answer (owns : kernel.current = some owner) {acted : Kernel} {value : Word}
    (effect : Effect kernel owner frame address acted (some value)) :
    acted.current = some owner := by
  -- A new child takes a slot that is free, and no effect with an answer moves the owner.
  cases effect with
  | fork value request allocated =>
    obtain ⟨rest, memory, -, -, rfl⟩ := allocEnv_ok allocated
    exact owns
  | unforked request refused =>
    rcases allocEnv_error refused with rfl | ⟨-, memory, -, rfl⟩ <;> exact owns
  | _ => exact owns

/-- A delivered message changes its receiver in exactly the way that the receiver asked for. -/
theorem Consistent.receives (consistent : (kernel.saved owner frame).Consistent)
    (owns : kernel.current = some owner) (different : other ≠ owner) {words : Arguments}
    {delivery : Delivery} {memory : Memory} (request : frame.Requests .trySend words)
    (resolved : (kernel.saved owner frame).resolveSend (.ofArguments words) = .ok delivery)
    (placed : delivery.placePage (kernel.saved owner frame).memory = (.ok (), memory))
    (here : delivery.receiver = other)
    (accepted : next.envAt other = delivery.accept (kernel.envAt other))
    (tables : ∀ handle, next.memory.table? handle = memory.table? handle) :
    kernel.Receives owner other frame words delivery.page next := by
  -- Saving the sender's registers did not concern the receiver, so it is the same as before.
  have savedOwns : (kernel.saved owner frame).current = some owner := owns
  obtain ⟨found, waits, sender, value, paged⟩ := resolveSend_ok savedOwns resolved
  have untouched : (kernel.saved owner frame).envAt other = kernel.envAt other := by
    rw [envAt_saved, if_neg different]
  have ownId : ((kernel.saved owner frame).envAt owner).id = (kernel.envAt owner).id := by
    rw [envAt_saved, if_pos rfl]
  rw [here] at found waits paged
  rw [untouched] at waits
  simp only [Env.awaitsMessage, Bool.and_eq_true, beq_iff_eq] at waits
  refine
    { request
      target := ?_
      waited := ⟨waits.2, waits.1⟩
      succeeds := by simp [trySend, resolved, placed]
      page_eq := paged
      landing := fun planned carried => ?_
      env_eq := ?_
      mappings := fun space va held => ?_ }
  · -- The sender cannot have named itself, since it does not wait.
    rcases EnvTable.find_ok found with ⟨-, self⟩ | ⟨-, -, named⟩
    · exact absurd (Option.some.inj self).symm different
    · rw [← envAt, untouched] at named
      exact named
  · rw [carried] at paged
    obtain ⟨-, -, landing, -⟩ := resolvePage_some paged
    rwa [untouched] at landing
  · -- Value, sender and permission go to the mailbox, as they were resolved.
    have permission : delivery.permission =
        (delivery.page.map PlannedMapping.flags).getD .empty := by
      unfold Delivery.permission
      cases delivery.page <;> rfl
    rw [accepted, Delivery.accept, permission, sender, value, ownId]
    rfl
  · -- The only mapping that may change is the one at the landing page.
    rw [Memory.entryAt?, tables, ← Memory.entryAt?]
    unfold Delivery.placePage at placed
    cases carried : delivery.page with
    | none =>
      simp only [carried, Prod.mk.injEq, true_and] at placed
      rw [← placed]
      rfl
    | some planned =>
      rw [carried] at paged placed
      obtain ⟨-, -, -, -, taking, -⟩ := resolvePage_some paged
      obtain ⟨handle, same, exists_⟩ := consistent.owns other
        (consistent.isLive_of_space taking)
      rw [taking, Option.some.injEq] at same
      rw [untouched, held, Option.some.injEq] at taking
      subst same taking
      obtain ⟨table, found⟩ := Option.isSome_iff_exists.mp exists_
      exact planned.replace_ok found placed va

/-- The sender of a message that was delivered goes on, and with it the trap ends. -/
theorem dispatched_of_delivered (owns : kernel.current = some owner)
    (ready : (kernel.envAt owner).isRunnable = true) (different : other ≠ owner)
    (waits : (kernel.envAt other).awaitsMessage = true) {delivery : Delivery} {memory : Memory}
    {acted : Kernel} {answer : Option Word} {outcome : Dispatch × Kernel}
    (acted_eq : acted = { kernel with memory }.modifyEnv other delivery.accept)
    (ends : outcome = (acted.answered answer).goOn ∨ (∃ clock, acted = { kernel with clock }) ∧
      outcome = (acted.answered answer).reschedule) :
    outcome.2 = (acted.answered answer).dispatched owner := by
  -- Delivering changes the receiver only, so the sender still owns the processor and can run.
  have slots (slot : Slot) : acted.envAt slot =
      if slot = other then delivery.accept (kernel.envAt other) else kernel.envAt slot := by
    rw [acted_eq]
    exact envAt_modifyEnv _ other slot delivery.accept
  obtain ⟨-, sameOwner, sameStatus⟩ := acted.answered_keeps answer owner
  have goesOn : (acted.answered answer).current = some owner := by
    rw [sameOwner, acted_eq]
    exact owns
  have ownerReady : ((acted.answered answer).envAt owner).isRunnable = true := by
    rw [Env.isRunnable, sameStatus, slots, if_neg (Ne.symm different)]
    exact ready
  rcases ends with continues | ⟨⟨clock, paused⟩, -⟩
  · rw [continues, goOn_of_isRunnable goesOn ownerReady]
  · -- A pause leaves the receiver blocked, but it is not blocked any more.
    have unchanged : acted.envAt other = kernel.envAt other := by
      rw [paused]
      rfl
    have released : (kernel.envAt other).status = .runnable := by
      rw [← unchanged, slots, if_pos rfl]
      rfl
    simp [Env.awaitsMessage, released] at waits

/-- Isolation holds in every settled state. -/
theorem Settled.isolated (settled : kernel.Settled) (user : frame.fromUser = true)
    (owns : kernel.current = some owner) (live : (kernel.envAt other).isLive = true)
    (different : other ≠ owner)
    (stranger : (kernel.envAt other).parent ≠ (kernel.envAt owner).id) (address : Address) :
    kernel.Untouched (kernel.trap frame address) other ∨ ∃ words page,
      kernel.Receives owner other frame words page (kernel.trap frame address).2 := by
  -- Saving the registers, the answer and the choice of who goes on all spare the other environment.
  obtain ⟨consistent, savedOwns, savedReady⟩ := settled.saved user owns
  obtain ⟨acted, answer, effect, ends⟩ := trap_effect user owns (settled.ready owner owns) address
  have begun : Spares kernel (kernel.saved owner frame) other :=
    .modifyEnv kernel ({ · with frame }) different
  have ownId : ((kernel.saved owner frame).envAt owner).id = (kernel.envAt owner).id := by
    rw [envAt_saved, if_pos rfl]
  have unowned : acted.current ≠ some other := by
    rcases current_effect savedOwns effect with current | current <;>
      simp [current, Ne.symm different]
  have answers := Spares.answered acted answer unowned
  rcases consistent.effect_spares savedOwns savedReady (begun.env_eq ▸ live) different
    (by rwa [begun.env_eq, ownId]) effect with spared |
    ⟨words, delivery, memory, request, resolved, placed, here, acted_eq⟩
  · -- Nothing reached the other environment before the next one was chosen.
    have acts := consistent.effect savedOwns savedReady effect
    have all := (begun.trans spared).trans answers
    have stays := (acts.answered answer).untouched_ends
      (ends_of_continues (ends.imp_right And.right)) (all.env_eq ▸ live)
    exact .inl (all.untouched stays)
  · -- The sender goes on at once, so the receiver has the message and nothing else.
    obtain ⟨-, waits, -⟩ := resolveSend_ok savedOwns resolved
    have last := dispatched_of_delivered savedOwns savedReady different (here ▸ waits) acted_eq ends
    obtain ⟨sameMemory, -, -⟩ := acted.answered_keeps answer owner
    rw [last]
    refine .inr ⟨words, delivery.page, consistent.receives owns different request resolved placed
      here ?_ fun handle => ?_⟩
    · rw [envAt_dispatched, if_neg different, answers.env_eq, acted_eq, envAt_modifyEnv,
        if_pos rfl, ← begun.env_eq]
      rfl
    · show (acted.answered answer).memory.table? handle = memory.table? handle
      rw [sameMemory, acted_eq]
      rfl

/--
A trap of an environment leaves every other environment alone that is not its child, whatever the
trap asks for. The one exception is a message to an environment that waits for one: it changes
exactly what a message changes.
-/
theorem isolated_after (config : Config) (events : List KernelEvent) (frame : TrapFrame)
    (address : Address) (owner other : Slot) (user : frame.fromUser = true)
    (owns : (after config events).current = some owner)
    (live : ((after config events).envAt other).isLive = true) (different : other ≠ owner)
    (stranger : ((after config events).envAt other).parent ≠
      ((after config events).envAt owner).id) :
    (after config events).Untouched ((after config events).trap frame address) other ∨
      ∃ words page, (after config events).Receives owner other frame words page
        ((after config events).trap frame address).2 :=
  (settled_after config events).isolated user owns live different stranger address

/-- Two environments without a parent are isolated from each other. -/
theorem isolated_siblings :
    let kernel := after { frames := 8 } [.create ⟨0, []⟩, .create ⟨0, []⟩, .reschedule]
    (TrapFrame.initial.fromUser = true ∧ kernel.current = some (slotAt 1) ∧
      (kernel.envAt (slotAt 0)).isLive = true ∧ slotAt 0 ≠ slotAt 1 ∧
      (kernel.envAt (slotAt 0)).parent ≠ (kernel.envAt (slotAt 1)).id) ∧
    (kernel.Untouched (kernel.trap .initial 0) (slotAt 0) ∨ ∃ words page,
      kernel.Receives (slotAt 1) (slotAt 0) .initial words page (kernel.trap .initial 0).2) := by
  intro kernel
  -- The second environment has the processor, and nobody is its parent.
  have user : TrapFrame.initial.fromUser = true := by decide +kernel
  have owns : kernel.current = some (slotAt 1) := by decide +kernel
  have live : (kernel.envAt (slotAt 0)).isLive = true := by decide +kernel
  have different : slotAt 0 ≠ slotAt 1 := by decide +kernel
  have stranger : (kernel.envAt (slotAt 0)).parent ≠ (kernel.envAt (slotAt 1)).id := by
    decide +kernel
  exact ⟨⟨user, owns, live, different, stranger⟩,
    isolated_after _ _ .initial 0 (slotAt 1) (slotAt 0) user owns live different stranger⟩

end Kernel

end Exokernel
