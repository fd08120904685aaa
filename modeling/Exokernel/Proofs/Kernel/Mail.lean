import Exokernel.Proofs.Kernel.Calls
import Exokernel.Proofs.Kernel.Isolation
import Exokernel.Proofs.Kernel.SlotEffects
import Exokernel.Proofs.Kernel.WriteAccess
import Exokernel.User.Messages

/-! What a send and a receive do to mailboxes, and that nothing else touches them. -/

namespace Exokernel

/-- The message that a mailbox holds. -/
def Mailbox.message (mailbox : Mailbox) : Message :=
  { sender := mailbox.sender, value := mailbox.value, permission := mailbox.permission }

/-- A mailbox in which a message has arrived. -/
def Mailbox.filled (mailbox : Mailbox) (message : Message) : Mailbox :=
  -- The landing place stays, as it is the receiver's own.
  { mailbox with
    receiving := false
    sender := message.sender
    value := message.value
    permission := message.permission }

/-- An environment that has its message and goes on with a zero in its result register. -/
def Env.delivered (env : Env) (message : Message) : Env :=
  -- Zero is what the receive call returns.
  { env with
    status := .runnable
    frame := env.frame.withResult 0
    mailbox := env.mailbox.filled message }

namespace Kernel

/-- The environment that owns the processor makes a system call. -/
structure Asks (kernel : Kernel) (event : KernelEvent) (owner : Slot) (frame : TrapFrame)
    (call : Syscall) (words : Arguments) : Prop where
  /-- The processor traps with the frame. -/
  event_eq : ∃ address, event = .trap frame address
  /-- The trap comes from user mode. -/
  user : frame.fromUser = true
  /-- The environment in the slot is the one that runs. -/
  owns : kernel.current = some owner
  /-- The frame asks for the call. -/
  request : frame.Requests call words

/-- An environment tries to send a message to the environment with an id. -/
structure Attempts (kernel : Kernel) (event : KernelEvent) (owner : Slot) (frame : TrapFrame)
    (words : Arguments) (target : EnvId) : Prop
    extends kernel.Asks event owner frame .trySend words where
  /-- The first argument leads to the target. -/
  found : kernel.envs.find ⟨words.first⟩ (some owner) = .ok target.slot
  /-- The target has the id. -/
  named : (kernel.envAt target.slot).id = target

/-- What the call returns with which an environment tries to send a message. -/
def sendResult (kernel : Kernel) (owner : Slot) (frame : TrapFrame) (words : Arguments) :
    Except SysError Word :=
  ((kernel.saved owner frame).trySend (.ofArguments words)).1

/-- An event is a send to the environment with an id that succeeds; the message says who sent it. -/
def Sends (kernel : Kernel) (event : KernelEvent) (target : EnvId) (message : Message) : Prop :=
  -- The answer is one if a page went with the message, and then its permission is told.
  ∃ owner frame words answer, kernel.Attempts event owner frame words target ∧
    kernel.sendResult owner frame words = .ok answer ∧
    message =
      { sender := (kernel.envAt owner).id
        value := words.second
        permission := if answer = 1 then ⟨words.fourth⟩ else .empty }

/-- An event is a receive of the environment with an id that succeeds. -/
def Accepts (kernel : Kernel) (event : KernelEvent) (id : EnvId) : Prop :=
  ∃ owner frame words, kernel.Asks event owner frame .receive words ∧
    (kernel.envAt owner).id = id ∧ ((kernel.saved owner frame).receive words.first).1 = .ok ()

/-- A call that failed: the caller learns the error, and nobody else learns anything. -/
structure Harmless (kernel : Kernel) (owner : Slot) (frame : TrapFrame) (error : SysError)
    (outcome : Dispatch × Kernel) : Prop where
  /-- The caller goes on with the error in its result register. -/
  resumes : outcome.1 = .resume (kernel.envAt owner).id (frame.withResult error.toWord)
  /-- Only the caller's registers and run counter have changed. -/
  envs : ∀ slot, outcome.2.envAt slot =
    if slot = owner then
      { kernel.envAt owner with
        frame := frame.withResult error.toWord, runs := (kernel.envAt owner).runs + 1 }
    else kernel.envAt slot
  /-- All page tables are the same. -/
  tables : ∀ handle, outcome.2.memory.table? handle = kernel.memory.table? handle
  /-- All bytes that anybody has mapped are the same. -/
  bytes : ∀ handle va, outcome.2.memory.byteAt handle va = kernel.memory.byteAt handle va

variable {kernel next acted : Kernel} {event : KernelEvent} {owner slot : Slot}
  {frame : TrapFrame} {words : Arguments} {target id : EnvId} {message : Message}

/-- A page has a permission, so the answer to a send tells whether a page went along. -/
theorem permission_of_answer {delivery : Delivery} {sender : Slot} {request : SendRequest}
    (paged : kernel.resolvePage sender delivery.receiver request = .ok delivery.page) :
    delivery.permission =
      if (if delivery.permission.isEmpty then (0 : Word) else 1) = 1 then request.flags
      else .empty := by
  unfold Delivery.permission
  cases carried : delivery.page with
  | none => rfl
  | some planned =>
    rw [carried] at paged
    obtain ⟨-, -, -, -, -, same, -⟩ := resolvePage_some paged
    rw [← same]
    dsimp only
    by_cases none_ : planned.flags.isEmpty = true
    · -- Without any flags there is nothing to tell apart.
      have bits : planned.flags.bits = 0 := by simpa [PageFlags.isEmpty] using none_
      rw [if_pos none_, if_neg (by decide)]
      exact PageFlags.eq_of_bits_eq bits
    · rw [if_neg none_, if_pos rfl]

/-- Mapped bytes stay the same when all memory in use does. -/
theorem Consistent.byteAt_eq (consistent : kernel.Consistent) {memory : Memory}
    (intact : kernel.memory.Intact memory) (handle : SpaceHandle) (va : Address) :
    memory.byteAt handle va = kernel.memory.byteAt handle va := by
  have entries : memory.entryAt? handle va = kernel.memory.entryAt? handle va := by
    rw [Memory.entryAt?, intact.tables, Memory.entryAt?]
  unfold Memory.byteAt
  rw [entries]
  split
  · rename_i entry found
    -- A mapped frame is in use, so it has its bytes.
    have used : 0 < kernel.memory.pool.refs entry.frame := consistent.memory.refs_pos found
    rw [FramePool.byteAt, intact.pool.page_eq _ used, FramePool.byteAt]
  · rfl

/-- A send that fails leaves all memory as it was. -/
theorem Consistent.trySend_error (consistent : kernel.Consistent)
    (owns : kernel.current = some owner) {request : SendRequest} {error : SysError}
    (failed : (kernel.trySend request).1 = .error error) : ∃ memory,
      kernel.trySend request = (.error error, { kernel with memory }) ∧
      kernel.memory.Intact memory := by
  -- Either the request is refused, or there is no memory for its page.
  unfold trySend at failed ⊢
  cases resolved : kernel.resolveSend request with
  | error cause =>
    rw [resolved] at failed
    simp only [Except.error.injEq] at failed
    rw [← failed]
    exact ⟨kernel.memory, rfl, .refl _⟩
  | ok delivery =>
    rw [resolved] at failed
    cases placed : delivery.placePage kernel.memory with
    | mk result memory =>
      simp only [placed] at failed ⊢
      cases result with
      | ok => simp at failed
      | error cause =>
        simp only [Except.error.injEq] at failed
        rw [← failed]
        exact ⟨memory, rfl, consistent.intact_placePage owns resolved placed⟩

/-- A send that succeeds has placed its page and changed its receiver. -/
theorem trySend_ok {request : SendRequest} {answer : Word}
    (sent : (kernel.trySend request).1 = .ok answer) : ∃ delivery memory,
      kernel.resolveSend request = .ok delivery ∧
      delivery.placePage kernel.memory = (.ok (), memory) ∧
      answer = (if delivery.permission.isEmpty then 0 else 1) ∧
      kernel.trySend request =
        (.ok answer, { kernel with memory }.modifyEnv delivery.receiver delivery.accept) := by
  -- Success means that the request was accepted and its page was placed.
  unfold trySend at sent ⊢
  cases resolved : kernel.resolveSend request with
  | error cause => simp [resolved] at sent
  | ok delivery =>
    simp only [resolved] at sent
    cases placed : delivery.placePage kernel.memory with
    | mk result memory =>
      simp only [placed] at sent
      cases result with
      | error cause => simp at sent
      | ok =>
        simp only [Except.ok.injEq] at sent
        refine ⟨delivery, memory, rfl, placed, sent.symm, ?_⟩
        simp only [placed, sent]

/-- Whatever a send comes to, the sender keeps the processor and stays as it is. -/
theorem Consistent.trySend_sender (consistent : kernel.Consistent)
    (owns : kernel.current = some owner) (ready : (kernel.envAt owner).isRunnable = true)
    {request : SendRequest} {result : Except SysError Word}
    (tried : kernel.trySend request = (result, acted)) :
    acted.current = some owner ∧ acted.envAt owner = kernel.envAt owner := by
  cases result with
  | error error =>
    obtain ⟨memory, failed, -⟩ := consistent.trySend_error owns (congrArg Prod.fst tried)
    rw [failed, Prod.mk.injEq] at tried
    rw [← tried.2]
    exact ⟨owns, rfl⟩
  | ok answer =>
    obtain ⟨delivery, memory, resolved, -, -, sent⟩ := trySend_ok (congrArg Prod.fst tried)
    obtain ⟨-, waits, -⟩ := resolveSend_ok owns resolved
    -- The receiver waits, so it is not the sender.
    obtain ⟨-, different⟩ := Consistent.waiting_ne ready waits
    rw [sent, Prod.mk.injEq] at tried
    rw [← tried.2, envAt_modifyEnv, if_neg (Ne.symm different)]
    exact ⟨owns, rfl⟩

/-- Whatever a send comes to, the sender goes on at once with the result. -/
theorem Settled.trap_trySend (settled : kernel.Settled)
    (asks : kernel.Asks event owner frame .trySend words) {result : Except SysError Word}
    (tried : (kernel.saved owner frame).trySend (.ofArguments words) = (result, acted))
    (address : Address) :
    (kernel.trap frame address).1 =
        .resume (kernel.envAt owner).id (frame.withResult (SysError.encodeResult result)) ∧
      (∀ slot, (kernel.trap frame address).2.envAt slot =
        if slot = owner then
          { kernel.envAt owner with
            frame := frame.withResult (SysError.encodeResult result)
            runs := (kernel.envAt owner).runs + 1 }
        else acted.envAt slot) ∧
      ∃ active, (kernel.trap frame address).2.memory = acted.memory.activate active := by
  obtain ⟨consistent, owns, ready⟩ := settled.saved asks.user asks.owns
  obtain ⟨stillOwns, own⟩ := consistent.trySend_sender owns ready tried
  have stillReady : (acted.envAt owner).isRunnable = true := by rw [own, ready]
  have performed : (kernel.saved owner frame).perform .trySend words =
      (.stay (SysError.encodeResult result), acted) := by
    simp only [perform, answer, tried]
  -- The sender keeps the processor and can run, so that it goes on.
  have slots := envAt_trap_request asks.user asks.owns asks.request address performed stillOwns
    stillReady
  have ends := trap_request asks.user asks.owns asks.request address performed
  rw [goOn_withResult stillOwns stillReady] at ends
  rw [envAt_saved, if_pos rfl] at own
  refine ⟨by rw [ends, own], fun slot => by rw [slots, own]; rfl,
    ((acted.withResult (SysError.encodeResult result)).envAt owner).space, ?_⟩
  rw [ends]
  simp only [dispatched, withResult, stillOwns, modifyEnv]

/-- A send that fails changes nothing but the registers of the sender. -/
theorem Settled.harmless (settled : kernel.Settled)
    (attempts : kernel.Attempts event owner frame words target) {error : SysError}
    (failed : kernel.sendResult owner frame words = .error error) (address : Address) :
    kernel.Harmless owner frame error (kernel.trap frame address) := by
  obtain ⟨consistent, owns, -⟩ := settled.saved attempts.user attempts.owns
  obtain ⟨memory, tried, intact⟩ := consistent.trySend_error owns failed
  obtain ⟨resumes, slots, active, memory_eq⟩ := settled.trap_trySend attempts.toAsks tried address
  -- The placement that failed left the memory in use intact.
  refine
    { resumes
      envs := fun other => ?_
      tables := fun handle => ?_
      bytes := fun handle va => ?_ }
  · rw [slots]
    split
    · rfl
    · rename_i different
      show (kernel.saved owner frame).envAt other = kernel.envAt other
      rw [envAt_saved, if_neg different]
  · rw [memory_eq]
    exact intact.tables handle
  · rw [memory_eq]
    exact settled.toConsistent.byteAt_eq intact handle va

/-- A message that was sent has arrived once the sender goes on. -/
theorem Settled.delivered (settled : kernel.Settled)
    (asks : kernel.Asks event owner frame .trySend words) {answer : Word}
    (succeeded : kernel.sendResult owner frame words = .ok answer)
    (found : kernel.envs.find ⟨words.first⟩ (some owner) = .ok slot) (address : Address) :
    (kernel.envAt slot).awaitsMessage = true ∧
      (kernel.trap frame address).2.envAt slot = (kernel.envAt slot).delivered
        { sender := (kernel.envAt owner).id
          value := words.second
          permission := if answer = 1 then ⟨words.fourth⟩ else .empty } := by
  obtain ⟨consistent, owns, ready⟩ := settled.saved asks.user asks.owns
  obtain ⟨delivery, memory, resolved, placed, answered, tried⟩ := trySend_ok succeeded
  obtain ⟨reached, waits, sender, value, paged⟩ := resolveSend_ok owns resolved
  -- The receiver is the one that the first argument leads to, and it is not the sender.
  have receiver : delivery.receiver = slot := by
    rw [← kernel.find_saved owner frame] at found
    simpa using reached.symm.trans found
  rw [receiver] at waits
  obtain ⟨-, different⟩ := Consistent.waiting_ne ready waits
  have untouched : (kernel.saved owner frame).envAt slot = kernel.envAt slot := by
    rw [envAt_saved, if_neg different]
  have ownId : ((kernel.saved owner frame).envAt owner).id = (kernel.envAt owner).id := by
    rw [envAt_saved, if_pos rfl]
  have permission := permission_of_answer paged
  rw [← answered] at permission
  obtain ⟨-, slots, -⟩ := settled.trap_trySend asks tried address
  have last : (kernel.trap frame address).2.envAt slot = delivery.accept (kernel.envAt slot) := by
    rw [slots, if_neg different, receiver, envAt_modifyEnv, if_pos rfl, ← untouched]
    rfl
  rw [untouched] at waits
  refine ⟨waits, ?_⟩
  rw [last, Delivery.accept, sender, value, permission, ownId]
  rfl

/-- A send that succeeds finds its target waiting, and leaves it with the message. -/
theorem Settled.delivered_of_sends (settled : kernel.Settled)
    (sends : kernel.Sends event target message) : ∃ before,
      kernel.env? target = some before ∧ before.awaitsMessage = true ∧
      (kernel.step event).env? target = some (before.delivered message) := by
  -- The kernel's step is the trap of the send, at any address.
  obtain ⟨owner, frame, words, answer, attempts, succeeded, rfl⟩ := sends
  obtain ⟨address, rfl⟩ := attempts.event_eq
  obtain ⟨waits, last⟩ := settled.delivered attempts.toAsks succeeded attempts.found address
  exact ⟨kernel.envAt target.slot,
    env?_eq_some.mpr ⟨rfl, Env.isLive_of_awaitsMessage waits, attempts.named⟩, waits,
    env?_eq_some.mpr ⟨last, rfl, attempts.named⟩⟩

/-- In every slot the same environment exists, with the same mailbox, or none does. -/
structure SameMail (kernel next : Kernel) (slot : Slot) : Prop where
  /-- The mailbox is the same. -/
  mailbox_eq : (next.envAt slot).mailbox = (kernel.envAt slot).mailbox
  /-- The id is the same. -/
  id_eq : (next.envAt slot).id = (kernel.envAt slot).id
  /-- An environment exists if it did. -/
  live_eq : (next.envAt slot).isLive = (kernel.envAt slot).isLive

namespace SameMail

/-- A record that is the same has the same mail. -/
theorem of_envAt_eq (same : next.envAt slot = kernel.envAt slot) : SameMail kernel next slot :=
  ⟨by rw [same], by rw [same], by rw [same]⟩

/-- Mail that stays in two steps stays. -/
theorem trans {first second third : Kernel} (before : SameMail first second slot)
    (after : SameMail second third slot) : SameMail first third slot :=
  ⟨after.mailbox_eq.trans before.mailbox_eq, after.id_eq.trans before.id_eq,
    after.live_eq.trans before.live_eq⟩

/-- A change that concerns neither mailbox nor id nor existence. -/
theorem modifyEnv (kernel : Kernel) (changed slot : Slot) {change : Env → Env}
    (mailbox : (change (kernel.envAt changed)).mailbox = (kernel.envAt changed).mailbox)
    (id : (change (kernel.envAt changed)).id = (kernel.envAt changed).id)
    (live : (change (kernel.envAt changed)).isLive = (kernel.envAt changed).isLive) :
    SameMail kernel (kernel.modifyEnv changed change) slot :=
  ⟨view_modifyEnv Env.mailbox kernel changed slot mailbox,
    view_modifyEnv Env.id kernel changed slot id,
    view_modifyEnv Env.isLive kernel changed slot live⟩

/-- To save registers moves no mail. -/
theorem saved (kernel : Kernel) (owner : Slot) (frame : TrapFrame) (slot : Slot) :
    SameMail kernel (kernel.saved owner frame) slot :=
  modifyEnv kernel owner slot rfl rfl rfl

/-- To answer the owner moves no mail. -/
theorem answered (kernel : Kernel) (answer : Option Word) (slot : Slot) :
    SameMail kernel (kernel.answered answer) slot := by
  -- The answer is in the registers, or there is none.
  rcases kernel.answered_cases answer with same | ⟨owner, value, -, same⟩ <;> rw [same]
  · exact of_envAt_eq rfl
  · exact modifyEnv kernel owner slot rfl rfl rfl

/-- What is none of the environments' business delivers nothing. -/
theorem of_undisturbed (undisturbed : kernel.Undisturbed next) (slot : Slot) :
    SameMail kernel next slot := by
  -- Records differ in their counts of runs at most.
  obtain ⟨runs, same⟩ := undisturbed.envs slot
  exact ⟨by rw [same], by rw [same], by rw [same, Env.isLive, Env.isLive]⟩

/-- Giving the processor away delivers nothing. -/
theorem ends {outcome : Dispatch × Kernel} (ends : kernel.Ends outcome) (slot : Slot) :
    SameMail kernel outcome.2 slot :=
  .of_undisturbed ends.undisturbed slot

end SameMail

/-- What a trap does to the mailbox of a slot before the processor is given away. -/
inductive MailEffect (kernel acted : Kernel) (owner : Slot) (frame : TrapFrame) (slot : Slot) :
    Prop where
  /-- Nothing, and nobody but the environment that trapped has other registers. -/
  | kept (same : SameMail kernel acted slot)
      (frame_eq : slot ≠ owner → (acted.envAt slot).frame = (kernel.envAt slot).frame)
  /-- The environment is gone afterwards. -/
  | gone (dead : (acted.envAt slot).isLive = false)
  /-- There was no environment before, and a new one has an empty mailbox. -/
  | fresh (dead : (kernel.envAt slot).isLive = false)
      (empty : (acted.envAt slot).mailbox = {})
  /-- The environment has asked for a message. -/
  | waits {words : Arguments} {landing : Option Address} (own : slot = owner)
      (request : frame.Requests .receive words)
      (resolved : resolveLanding words.first = .ok landing)
      (waiting : acted.envAt slot = (kernel.envAt slot).waiting landing)
  /-- A message has arrived. -/
  | filled {words : Arguments} {delivery : Delivery} {memory : Memory}
      (request : frame.Requests .trySend words)
      (resolved : kernel.resolveSend (.ofArguments words) = .ok delivery)
      (placed : delivery.placePage kernel.memory = (.ok (), memory))
      (reached : delivery.receiver = slot)
      (accepted : acted.envAt slot = delivery.accept (kernel.envAt slot))

/-- A slot that holds the same has the same mailbox and the same registers. -/
theorem MailEffect.of_envAt_eq (same : acted.envAt slot = kernel.envAt slot) :
    MailEffect kernel acted owner frame slot :=
  .kept (.of_envAt_eq same) fun _ => by rw [same]

/-- Of all that a trap can do, only receiving and sending concern a mailbox that stays. -/
theorem Consistent.mailEffect (consistent : kernel.Consistent)
    (owns : kernel.current = some owner) {address : Address} {answer : Option Word}
    (effect : Effect kernel owner frame address acted answer) (slot : Slot) :
    MailEffect kernel acted owner frame slot := by
  -- One case for each thing that can become of the environment in the slot.
  cases consistent.slotEffect effect slot with
  | kept same => exact .of_envAt_eq same
  | faulted own entered =>
    refine .kept ⟨?_, ?_, ?_⟩ (absurd own) <;>
      rw [entered] <;> rfl
  | exited _ _ vacated | destroyed _ _ vacated =>
    refine .gone ?_
    rw [vacated]
    rfl
  | statusSet request settable found set =>
    -- Only a state of an environment that exists can be asked for.
    have live := consistent.isLive_of_findOwned owns found
    refine .kept ⟨by rw [set], by rw [set], ?_⟩ fun _ => by rw [set]
    rw [live, set]
    rcases settableStatus_ok settable with rfl | rfl <;> rfl
  | entrySet request found set =>
    refine .kept ⟨by rw [set], by rw [set], ?_⟩ fun _ => by rw [set]
    rw [set]
    rfl
  | waits own request resolved waiting => exact .waits own request resolved waiting
  | filled request resolved placed reached accepted =>
    exact .filled request resolved placed reached accepted
  | born request dead child =>
    refine .fresh dead ?_
    rw [child]
    rfl

/-- How the environment with an id came by its mailbox in one step of a run. -/
inductive MailStep (kernel : Kernel) (event : KernelEvent) (id : EnvId) (env : Env) : Prop where
  /-- It is new, and its mailbox is empty. -/
  | fresh (absent : kernel.env? id = none) (empty : env.mailbox = {})
  /-- The mailbox is as it was, and so are the registers unless the environment was running. -/
  | kept {old : Env} (found : kernel.env? id = some old) (same : env.mailbox = old.mailbox)
    (frame_eq : kernel.currentId ≠ some id → env.frame = old.frame)
  /-- It has asked for a message. -/
  | waits {old : Env} (found : kernel.env? id = some old) (accepts : kernel.Accepts event id)
      (same : env.mailbox.message = old.mailbox.message)
  /-- A message has arrived. -/
  | filled {message : Message} (sends : kernel.Sends event id message)

/-- A slot in which nobody was holds an empty mailbox once an environment was created. -/
theorem Consistent.mailbox_createEnv (consistent : kernel.Consistent) (image : ProgramImage)
    (dead : (kernel.envAt slot).isLive = false) :
    ((kernel.createEnv image).2.envAt slot).mailbox = {} := by
  -- Nothing is left in a free slot, and a new environment starts with nothing.
  have status : (kernel.envAt slot).status = .free := by simpa [Env.isLive] using dead
  have empty : (kernel.envAt slot).mailbox = {} := (consistent.envs.vacant slot status).2.2
  unfold Kernel.createEnv
  cases allocated : kernel.allocEnv .self with
  | mk result made =>
    cases result with
    | error error =>
      rcases Kernel.allocEnv_error allocated with rfl | ⟨-, memory, -, rfl⟩
      · exact empty
      · exact empty
    | ok created =>
      obtain ⟨new, space⟩ := created
      have slots := envAt_allocEnv allocated
      have begun : (made.envAt slot).mailbox = {} := by
        rw [slots]
        split
        · rfl
        · exact empty
      dsimp only
      split
      · -- An image that cannot be loaded is given up together with its slot.
        rw [envAt_freeEnv]
        split
        · rfl
        · exact begun
      · rw [envAt_modifyEnv]
        split
        · rename_i here
          rw [here] at begun
          exact begun
        · exact begun

/-- If the slot is the same before and after a step, so is the environment in it. -/
theorem MailStep.of_sameMail {env : Env} (found : (kernel.step event).env? id = some env)
    (same : SameMail kernel (kernel.step event) id.slot)
    (frames : kernel.currentId ≠ some id →
      ((kernel.step event).envAt id.slot).frame = (kernel.envAt id.slot).frame) :
    MailStep kernel event id env := by
  obtain ⟨here, live, named⟩ := env?_eq_some.mp found
  -- Every part of what is kept is read from the record before the step.
  refine .kept (env?_eq_some.mpr ⟨rfl, ?_, ?_⟩) ?_ fun parked => ?_
  · rw [← same.live_eq, here, live]
  · rw [← same.id_eq, here, named]
  · rw [← here, same.mailbox_eq]
  · rw [← here, frames parked]

/-- A slot that stays as it is keeps its environment. -/
theorem MailStep.of_envAt_eq {env : Env} (found : (kernel.step event).env? id = some env)
    (same : (kernel.step event).envAt id.slot = kernel.envAt id.slot) :
    MailStep kernel event id env :=
  .of_sameMail found (.of_envAt_eq same) fun _ => by rw [same]

/-- A trap of user code does to a mailbox what its effect does. -/
theorem Settled.mailStep_trap (settled : kernel.Settled) {env : Env} {address : Address}
    {answer : Option Word} (user : frame.fromUser = true) (current : kernel.current = some owner)
    (effect : Effect (kernel.saved owner frame) owner frame address acted answer)
    (ends : (acted.answered answer).Ends (kernel.trap frame address))
    (found : (kernel.step (.trap frame address)).env? id = some env) :
    MailStep kernel (.trap frame address) id env := by
  obtain ⟨here, live, named⟩ := env?_eq_some.mp found
  obtain ⟨consistent, owns, ready⟩ := settled.saved user current
  -- Saving the registers, answering and choosing who is next leave every mailbox alone.
  have before := SameMail.saved kernel owner frame id.slot
  have after : SameMail acted (kernel.step (.trap frame address)) id.slot :=
    (SameMail.answered acted answer id.slot).trans (.ends ends id.slot)
  -- If the effect does not change the id in the slot, it is the id of the same environment.
  have sameId (kept : (acted.envAt id.slot).id = ((kernel.saved owner frame).envAt id.slot).id) :
      (kernel.envAt id.slot).id = id := by
    rw [← before.id_eq, ← kept, ← after.id_eq, here, named]
  cases consistent.mailEffect owns effect id.slot with
  | kept same frame_eq =>
    refine .of_sameMail found ((before.trans same).trans after) fun parked => ?_
    -- Whoever is not running is not the one whose registers were saved or answered.
    have different : id.slot ≠ owner := by
      intro own
      have running := sameId same.id_eq
      exact parked (by rw [currentId, current, Option.map_some, ← own, running])
    have unowned : acted.current ≠ some id.slot := by
      rcases current_effect owns effect with stays | left
      · rw [stays]
        exact fun own => different (Option.some.inj own).symm
      · simp [left]
    rw [Kernel.step, ends.frame_eq, (Spares.answered acted answer unowned).env_eq,
      frame_eq different, envAt_saved, if_neg different]
  | gone dead =>
    rw [← after.live_eq, here, live] at dead
    simp at dead
  | fresh dead empty =>
    rw [before.live_eq] at dead
    rw [← after.mailbox_eq, here] at empty
    exact .fresh (by simp [env?, dead]) empty
  | waits own request resolved waiting =>
    rename_i words landing
    have same := sameId (by rw [waiting]; rfl)
    have answered : ((kernel.saved owner frame).receive words.first).1 = .ok () := by
      simp only [Kernel.receive, Kernel.owner, owns, resolved]
    refine .waits (env?_eq_some.mpr ⟨rfl, ?_, same⟩)
      ⟨owner, frame, words, ⟨⟨address, rfl⟩, user, current, request⟩, own ▸ same, answered⟩ ?_
    · rw [own]
      exact Env.isLive_of_isRunnable (settled.ready owner current)
    · rw [← here, after.mailbox_eq, waiting, ← before.mailbox_eq]
      rfl
  | filled request resolved placed reached accepted =>
    rename_i words delivery memory
    have same := sameId (by rw [accepted]; rfl)
    obtain ⟨found, -⟩ := resolveSend_ok owns resolved
    rw [find_saved, reached] at found
    have succeeded : kernel.sendResult owner frame words =
        .ok (if delivery.permission.isEmpty then 0 else 1) := by
      simp only [sendResult, trySend, resolved, placed]
    exact .filled ⟨owner, frame, words, _,
      ⟨⟨⟨address, rfl⟩, user, current, request⟩, found, same⟩, succeeded, rfl⟩

/-- Whatever happens, an environment has a mailbox for one of four reasons. -/
theorem Settled.mailStep (settled : kernel.Settled) {env : Env}
    (found : (kernel.step event).env? id = some env) : MailStep kernel event id env := by
  -- One case for each event; only creating an environment and traps of user code touch mailboxes.
  cases event with
  | create image =>
    cases alive : (kernel.envAt id.slot).isLive with
    | true =>
      exact .of_envAt_eq found ((settled.toConsistent.createEnv_outside image).2 id.slot alive)
    | false =>
      obtain ⟨here, -, -⟩ := env?_eq_some.mp found
      have empty := settled.toConsistent.mailbox_createEnv image alive
      exact .fresh (by simp [env?, alive]) (here ▸ empty)
  | trap frame address =>
    cases settled.trapCourse frame address with
    | outside unowned undisturbed =>
      obtain ⟨runs, same⟩ := undisturbed.envs id.slot
      refine .of_sameMail found (.of_undisturbed undisturbed id.slot) fun _ => ?_
      rw [Kernel.step, same]
    | owned user owns effect ends => exact settled.mailStep_trap user owns effect ends found
  | reschedule =>
    have ends := ends_reschedule kernel
    exact .of_sameMail found (.ends ends id.slot) fun _ => ends.frame_eq id.slot
  | forceFailure => exact .of_envAt_eq found rfl
  | write space va bytes => exact .of_envAt_eq found rfl
  | typed bytes => exact .of_envAt_eq found rfl

end Kernel

end Exokernel
