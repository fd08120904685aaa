import Exokernel.Proofs.Kernel.Preservation

/-! What a trap makes of the environment in one slot, before the processor is given away. -/

namespace Exokernel.Kernel

variable {kernel acted : Kernel} {owner : Slot} {frame : TrapFrame} {address : Address}
  {answer : Option Word}

/--
What the effect of a trap makes of the environment in a slot.

The words of a system call come with the case, since they say what was asked for.
-/
inductive SlotEffect (kernel acted : Kernel) (owner : Slot) (frame : TrapFrame)
    (answer : Option Word) (slot : Slot) : Prop where
  /-- Nothing. -/
  | kept (same : acted.envAt slot = kernel.envAt slot)
  /-- It enters its fault handler. -/
  | faulted {delivery : FaultDelivery} (own : slot = owner)
      (entered : acted.envAt slot = delivery.enter (kernel.envAt slot))
  /-- It ends by its own doing, and gets no answer. -/
  | exited (own : slot = owner) (unanswered : answer = none)
      (vacated : acted.envAt slot = (kernel.envAt slot).vacated)
  /-- It is destroyed by its parent. -/
  | destroyed {words : Arguments} (request : frame.Requests .destroyEnv words)
      (found : kernel.findOwned ⟨words.first⟩ = .ok slot)
      (vacated : acted.envAt slot = (kernel.envAt slot).vacated)
  /-- It is blocked or made runnable, by itself or by its parent. -/
  | statusSet {words : Arguments} {status : Status} (request : frame.Requests .setStatus words)
      (settable : settableStatus words.second = .ok status)
      (found : kernel.findOwned ⟨words.first⟩ = .ok slot)
      (set : acted.envAt slot = { kernel.envAt slot with status })
  /-- It gets another fault entry point, from itself or from its parent. -/
  | entrySet {words : Arguments} {faultEntry : Option Address}
      (request : frame.Requests .setFaultEntry words)
      (found : kernel.findOwned ⟨words.first⟩ = .ok slot)
      (set : acted.envAt slot = { kernel.envAt slot with faultEntry })
  /-- It asks for a message. -/
  | waits {words : Arguments} {landing : Option Address} (own : slot = owner)
      (request : frame.Requests .receive words)
      (resolved : resolveLanding words.first = .ok landing)
      (waiting : acted.envAt slot = (kernel.envAt slot).waiting landing)
  /-- It gets a message. -/
  | filled {words : Arguments} {delivery : Delivery} {memory : Memory}
      (request : frame.Requests .trySend words)
      (resolved : kernel.resolveSend (.ofArguments words) = .ok delivery)
      (placed : delivery.placePage kernel.memory = (.ok (), memory))
      (reached : delivery.receiver = slot)
      (accepted : acted.envAt slot = delivery.accept (kernel.envAt slot))
  /-- It is the new child of the owner of the processor. -/
  | born {words : Arguments} {space : SpaceHandle} (request : frame.Requests .fork words)
      (dead : (kernel.envAt slot).isLive = false)
      (child : acted.envAt slot =
        (Env.fresh ((kernel.envAt slot).id.next slot) (kernel.envAt owner).id space).asChildOf
          (kernel.envAt owner))

/-- A change of one environment is felt in its slot, and nowhere else. -/
theorem SlotEffect.of_modifyEnv {base : Kernel} {slot target : Slot} {change : Env → Env}
    (same : base.envs = kernel.envs)
    (changed : slot = target →
      (base.modifyEnv target change).envAt slot = change (kernel.envAt slot) →
      SlotEffect kernel (base.modifyEnv target change) owner frame answer slot) :
    SlotEffect kernel (base.modifyEnv target change) owner frame answer slot := by
  -- The slot is the target, or it is kept.
  have slots := base.envAt_modifyEnv target slot change
  simp only [envAt, same] at slots
  by_cases here : slot = target
  · rw [if_pos here, ← here] at slots
    exact changed here (by rw [← here]; exact slots)
  · rw [if_neg here] at slots
    exact .kept slots

/-- Every effect does one of these things to the environment in a slot. -/
theorem Consistent.slotEffect (consistent : kernel.Consistent)
    (effect : Effect kernel owner frame address acted answer) (slot : Slot) :
    SlotEffect kernel acted owner frame answer slot := by
  -- One case for each effect; those that are left out change no environment at all.
  cases effect with
  | fault => exact .of_modifyEnv rfl fun own entered => .faulted own entered
  | exit =>
    have slots := envAt_freeEnv kernel owner slot
    split at slots
    · rename_i own
      exact .exited own rfl (own ▸ slots)
    · exact .kept slots
  | destroy request found other =>
    rename_i words child
    have slots := envAt_freeEnv kernel child slot
    split at slots
    · rename_i here
      exact .destroyed request (here ▸ found) (here ▸ slots)
    · exact .kept slots
  | setStatus request settable found =>
    exact .of_modifyEnv rfl fun here set => .statusSet request settable (here ▸ found) set
  | setFaultEntry faultEntry request found =>
    exact .of_modifyEnv rfl fun here set => .entrySet request (here ▸ found) set
  | receive request resolved =>
    exact .of_modifyEnv rfl fun own waiting => .waits own request resolved waiting
  | deliver value request resolved placed =>
    exact .of_modifyEnv rfl fun here accepted => .filled request resolved placed here.symm accepted
  | fork value request allocated =>
    rename_i words child space next
    have slots := envAt_allocEnv allocated slot
    -- The slot of the child was free, and no other slot is touched.
    by_cases here : slot = child
    · refine .born request (here ▸ consistent.not_isLive_of_allocEnv allocated)
        (?_ : _ = (Env.fresh _ _ space).asChildOf _)
      rw [envAt_modifyEnv, if_pos here, ← here, slots, if_pos here, here]
    · refine .kept ?_
      rw [envAt_modifyEnv, if_neg here, slots, if_neg here]
  | unforked request refused =>
    rcases Kernel.allocEnv_error refused with rfl | ⟨cause, memory, -, rfl⟩ <;> exact .kept rfl
  | _ => exact .kept rfl

end Exokernel.Kernel
