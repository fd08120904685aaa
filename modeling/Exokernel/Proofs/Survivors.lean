import Exokernel.Proofs.Kernel.Mail
import Exokernel.Proofs.Delivery

/-! Who is still there after the running environment has used memory or made a call. -/

namespace Exokernel

namespace Kernel

variable {start kernel next : Kernel} {me id : EnvId} {slot : Slot}

/-- Every environment but one that existed at the start still exists. -/
def Outlasts (start : Kernel) (me : EnvId) (now : Kernel) : Prop :=
  ∀ id, id ≠ me → (start.env? id).isSome = true → (now.env? id).isSome = true

/-- An id is that of an environment if its slot is taken under this id. -/
theorem env?_isSome : (kernel.env? id).isSome = true ↔
    (kernel.envAt id.slot).isLive = true ∧ (kernel.envAt id.slot).id = id := by
  -- A lookup compares both.
  simp only [env?]
  split <;> simp_all

/-- Where all slots hold the same environments, the same environments exist. -/
theorem isSome_of_sameMail (same : ∀ slot, SameMail kernel next slot) (id : EnvId) :
    (next.env? id).isSome = (kernel.env? id).isSome := by
  -- Liveness and id are part of what is the same.
  rw [Bool.eq_iff_iff, env?_isSome, env?_isSome, (same id.slot).live_eq, (same id.slot).id_eq]

/-- All environments outlast nothing. -/
theorem Outlasts.refl (kernel : Kernel) (me : EnvId) : kernel.Outlasts me kernel :=
  fun _ _ => id

/-- Environments outlast a step after which the same ones exist. -/
theorem Outlasts.of_sameMail (outlasts : start.Outlasts me kernel)
    (same : ∀ slot, SameMail kernel next slot) : start.Outlasts me next :=
  fun id other alive => (isSome_of_sameMail same id).trans (outlasts id other alive)

/-- When the environment in a slot goes, it is the only one that goes. -/
theorem Outlasts.freeEnv (outlasts : start.Outlasts me kernel)
    (named : (kernel.envAt slot).id = me) : start.Outlasts me (kernel.freeEnv slot) := by
  -- Whoever else there was is in another slot.
  intro id other alive
  obtain ⟨live, same⟩ := env?_isSome.mp (outlasts id other alive)
  have elsewhere : id.slot ≠ slot := fun here => other (by rw [← same, here, named])
  refine env?_isSome.mpr ?_
  rw [envAt_freeEnv, if_neg elsewhere]
  exact ⟨live, same⟩

variable {owner : Slot} {frame : TrapFrame} {address : Address}

/-- An environment that asks for its own end is freed, and the processor is given away. -/
theorem trap_exit (user : frame.fromUser = true) (owns : kernel.current = some owner)
    (request : frame.Requests .destroyEnv {}) : kernel.trap frame address =
      { (kernel.saved owner frame).freeEnv owner with current := none }.reschedule := by
  -- The zero id always names the caller, who may destroy itself.
  have savedOwns : (kernel.saved owner frame).current = some owner := owns
  have found : (kernel.saved owner frame).findOwned .self = .ok owner := by
    simp [findOwned, EnvTable.findOwned, EnvTable.find, savedOwns, EnvId.self, EnvId.isSelf]
  have performed : (kernel.saved owner frame).perform .destroyEnv {} =
      answerDestroy ((kernel.saved owner frame).destroyEnv owner) 0 := by
    change (kernel.saved owner frame).destroyCall .self = _
    simp only [destroyCall, found]
  simp only [destroyEnv_owner savedOwns, answerDestroy] at performed
  rw [trap_handleCall user owns request.kind]
  simp only [handleCall, syscall, request.number]
  rw [← request.arguments, performed]
  simp only [conclude]

end Kernel

namespace Machine

variable {start : Kernel} {me : EnvId} {machine next : Machine} {slot : Slot}

/-- An environment runs, and nobody else has gone. -/
structure Running (start : Kernel) (me : EnvId) (machine : Machine) : Prop where
  /-- Processor and kernel fit together. -/
  coupled : machine.Coupled
  /-- The environment runs. -/
  current : machine.current = some me
  /-- The others are still there. -/
  others : start.Outlasts me machine.kernel

/-- An environment has gone, and nobody else has. -/
structure Ended (start : Kernel) (me : EnvId) (machine : Machine) : Prop where
  /-- Processor and kernel fit together. -/
  coupled : machine.Coupled
  /-- The environment does not exist any more. -/
  gone : machine.kernel.env? me = none
  /-- The others are still there. -/
  others : start.Outlasts me machine.kernel

namespace Running

/-- The slot and the space of the environment that runs. -/
theorem runs (running : machine.Running start me) : ∃ slot space, machine.Runs slot space ∧
    (machine.kernel.envAt slot).id = me :=
  running.coupled.runs_of_running running.current

/-- An environment that goes on at the end of a kernel entry runs, as it did before. -/
theorem goOn (running : machine.Running start me) (owned : (machine.kernel.envAt slot).id = me)
    {acted : Kernel} (same : ∀ slot, Kernel.SameMail machine.kernel acted slot)
    (owns : acted.current = some slot) (ready : (acted.envAt slot).isRunnable = true)
    (coupled : (apply acted.goOn).Coupled) : (apply acted.goOn).Running start me where
  coupled := coupled
  current := by
    -- It is the same environment, as its id has not changed.
    rw [Kernel.goOn_of_isRunnable owns ready, ← owned, ← (same slot).id_eq]
    rfl
  others := by
    rw [kernel_apply]
    exact running.others.of_sameMail fun slot => (same slot).trans (.ends acted.ends_goOn slot)

/-- An environment whose slot is released has gone, whoever gets the processor. -/
theorem freed (running : machine.Running start me) (owned : (machine.kernel.envAt slot).id = me)
    (home : me.slot = slot) {base : Kernel}
    (same : ∀ slot, Kernel.SameMail machine.kernel base slot) {outcome : Dispatch × Kernel}
    (ends : { base.freeEnv slot with current := none }.Ends outcome)
    (coupled : (apply outcome).Coupled) : (apply outcome).Ended start me := by
  -- Giving the processor away changes neither who exists nor under which id.
  have after (other : Slot) : Kernel.SameMail (base.freeEnv slot) outcome.2 other := by
    have unowned : Kernel.SameMail (base.freeEnv slot) { base.freeEnv slot with current := none }
        other := .of_envAt_eq rfl
    exact unowned.trans (.ends ends other)
  have named : (base.envAt slot).id = me := (same slot).id_eq.trans owned
  refine ⟨coupled, ?_, ?_⟩
  · rw [kernel_apply, ← Option.not_isSome_iff_eq_none, Kernel.isSome_of_sameMail after,
      Kernel.env?_isSome, home, Kernel.envAt_freeEnv, if_pos rfl]
    rintro ⟨live, -⟩
    simp [Env.vacated, Env.isLive] at live
  · rw [kernel_apply]
    exact ((running.others.of_sameMail same).freeEnv named).of_sameMail after

/-- A page fault is delivered to the environment, or is its end. -/
theorem raise (running : machine.Running start me) (code : Word) (address : Address) :
    (machine.raise TrapVector.pageFault code address).Running start me ∨
      (machine.raise TrapVector.pageFault code address).Ended start me := by
  obtain ⟨slot, space, runs, owned⟩ := running.runs
  have home : me.slot = slot := owned ▸ runs.slot_id
  have coupled := running.coupled.raise TrapVector.pageFault code address
  have saved (frame : TrapFrame) := Kernel.SameMail.saved machine.kernel slot frame
  obtain ⟨frame, -, -, -, raised⟩ := runs.raise_pageFault code address
  have owns : (machine.kernel.saved slot frame).current = some slot := runs.owns
  have ready : ((machine.kernel.saved slot frame).envAt slot).isRunnable = true := by
    rw [Kernel.envAt_saved, if_pos rfl]
    exact runs.ready
  rw [raised] at coupled ⊢
  -- Either there is a place for the record of the fault, or its environment is destroyed.
  cases planned : (machine.kernel.saved slot frame).planFault slot frame with
  | none =>
    rw [Kernel.handleFault_of_unplanned owns planned] at coupled ⊢
    exact .inr (running.freed owned home (saved frame) (Kernel.ends_goOn _) coupled)
  | some delivery =>
    obtain ⟨memory, recorded⟩ := Kernel.copyOut_planFault planned (.ofFrame frame address)
    rw [Kernel.handleFault_of_planned owns ready planned recorded] at coupled ⊢
    -- Entering the handler concerns registers, and so no mailbox.
    have entered (other : Slot) : Kernel.SameMail (machine.kernel.saved slot frame)
        ({ machine.kernel.saved slot frame with memory }.modifyEnv slot delivery.enter) other := by
      have stored : Kernel.SameMail (machine.kernel.saved slot frame)
          { machine.kernel.saved slot frame with memory } other := .of_envAt_eq rfl
      exact stored.trans (.modifyEnv _ slot other rfl rfl rfl)
    refine .inl (running.goOn owned (fun other => (saved frame other).trans (entered other)) owns
      ?_ coupled)
    rw [Kernel.envAt_modifyEnv, if_pos rfl]
    exact ready

/-- A system call that changes memory alone is one after which its caller runs. -/
theorem syscall_memory (running : machine.Running start me) {call : Syscall} {words : Arguments}
    (performs : ∀ kernel : Kernel, ∃ value memory,
      kernel.perform call words = (.stay value, { kernel with memory })) :
    (machine.syscall call words).2.Running start me := by
  -- The caller is answered and goes on, because its slot still lets it run.
  obtain ⟨slot, space, runs, owned⟩ := running.runs
  obtain ⟨value, memory, performed⟩ := performs (machine.calling slot call words)
  have coupled := running.coupled.syscall call words
  have entry : (machine.syscall call words).2 =
      apply (machine.kernel.trap (called (machine.frame?.getD {}) call words) 0) :=
    step_syscall runs.cpu_eq call words
  have user : (called (machine.frame?.getD {}) call words).fromUser = true := runs.fromUser
  rw [entry, Kernel.trap_request user runs.owns (requests_called _ call words) 0 performed]
    at coupled ⊢
  have owns : (machine.calling slot call words).current = some slot := runs.owns
  have ready := runs.ready_calling call words
  -- Registers, memory and the answer are no business of any mailbox.
  have same (other : Slot) : Kernel.SameMail machine.kernel
      ({ machine.calling slot call words with memory }.withResult value) other := by
    have stored : Kernel.SameMail (machine.calling slot call words)
        { machine.calling slot call words with memory } other := .of_envAt_eq rfl
    exact ((Kernel.SameMail.saved _ _ _ _).trans stored).trans (.answered _ (some value) other)
  have answered : { machine.calling slot call words with memory }.withResult value =
      { machine.calling slot call words with memory }.modifyEnv slot (·.withResult value) := by
    simp only [Kernel.withResult, owns]
  refine running.goOn owned same ?_ ?_ coupled
  · rw [answered]
    exact owns
  · rw [answered, Kernel.envAt_modifyEnv, if_pos rfl]
    exact ready

end Running

/-- Whoever has gone does not run. -/
theorem Ended.not_running (ended : machine.Ended start me) : machine.isRunning me = false := by
  rw [isRunning, beq_eq_false_iff_ne, ended.coupled.current_eq]
  intro current
  obtain ⟨slot, owns, named⟩ := Option.map_eq_some_iff.mp current
  -- The one that runs exists, and its id leads back to its slot.
  have live := Env.isLive_of_isRunnable (ended.coupled.settled.ready slot owns)
  have home : me.slot = slot := by
    rw [← named]
    exact ended.coupled.settled.envs.slot_id live
  have exists_ : (machine.kernel.env? me).isSome = true := by
    rw [Kernel.env?_isSome, home]
    exact ⟨live, named⟩
  rw [ended.gone] at exists_
  simp at exists_

namespace Running

/-- An environment that asks for its own end has gone, and gets no answer. -/
theorem syscall_exit (running : machine.Running start me) :
    (machine.syscall .destroyEnv {}).1 = .error .descheduled ∧
      (machine.syscall .destroyEnv {}).2.Ended start me := by
  -- The slot is freed and the processor is given away, so that the call does not return.
  obtain ⟨slot, space, runs, owned⟩ := running.runs
  have home : me.slot = slot := owned ▸ runs.slot_id
  have coupled := running.coupled.syscall .destroyEnv {}
  have entry : (machine.syscall .destroyEnv {}).2 =
      apply (machine.kernel.trap (called (machine.frame?.getD {}) .destroyEnv {}) 0) :=
    step_syscall runs.cpu_eq .destroyEnv {}
  have user : (called (machine.frame?.getD {}) .destroyEnv {}).fromUser = true := runs.fromUser
  -- The environment has ended by the time the call would return.
  have ended : (machine.syscall .destroyEnv {}).2.Ended start me := by
    rw [entry, Kernel.trap_exit user runs.owns (requests_called _ .destroyEnv {})] at coupled ⊢
    exact running.freed owned home (Kernel.SameMail.saved _ _ _) (Kernel.ends_reschedule _) coupled
  refine ⟨?_, ended⟩
  have stopped := ended.not_running
  unfold Machine.syscall at stopped ⊢
  rw [runs.cpu_eq] at stopped ⊢
  dsimp only at stopped ⊢
  generalize Machine.raise _ _ _ _ = raised at stopped ⊢
  split
  · rename_i id frame state
    rw [state] at stopped
    dsimp only at stopped
    split
    · -- If the same environment went on, it would run.
      rename_i same
      rw [if_pos same] at stopped
      simp [isRunning, Machine.current, state, same, owned] at stopped
    · rfl
  · rfl

/-- A range is used in place, or its page fault is raised. -/
theorem resolveRange (running : machine.Running start me) (write : Bool) (va : Address)
    (length : Nat) :
    (machine.resolveRange write va length).2.Running start me ∧
        (machine.resolveRange write va length).1 ≠ .error .descheduled ∨
      (machine.resolveRange write va length).2.Ended start me ∧
        (machine.resolveRange write va length).1 = .error .descheduled := by
  obtain ⟨slot, space, runs, owned⟩ := running.runs
  unfold Machine.resolveRange
  simp only [running.current, runs.active]
  split
  · rename_i address refused
    dsimp only
    generalize (machine.refusal? write address).getD 0 = code
    -- A delivered fault leaves the environment running, and a fatal one does not.
    rcases running.raise code address with again | ended
    · refine .inl ⟨again, ?_⟩
      simp [trappedFor, isRunning, again.current]
    · exact .inr ⟨ended, by simp [trappedFor, ended.not_running]⟩
  · exact .inl ⟨running, by simp⟩

/-- Memory is used in place, or after a page fault was delivered, or the environment has gone. -/
theorem access (running : machine.Running start me) (use : Access) :
    (Cpu.access machine use).2.Running start me ∧ (Cpu.access machine use).1 ≠ .error .descheduled ∨
      (Cpu.access machine use).2.Ended start me ∧
        (Cpu.access machine use).1 = .error .descheduled := by
  -- A refused address is a fault; without one everything is mapped, and the access is made.
  obtain ⟨slot, space, runs, owned⟩ := running.runs
  cases use with
  | load va length =>
    have resolved := running.resolveRange false va length
    change (machine.load va length).2.Running start me ∧ (machine.load va length).1 ≠ _ ∨
      (machine.load va length).2.Ended start me ∧ (machine.load va length).1 = _
    unfold Machine.load
    split
    · rename_i trapped next refused
      rw [refused] at resolved
      simpa using resolved
    · rename_i used next granted
      obtain ⟨rfl, active, passed⟩ := resolveRange_ok granted
      rw [Memory.copyIn_of_mapped (mapped_of_granted active passed)]
      exact .inl ⟨running, by simp⟩
  | store va data =>
    have resolved := running.resolveRange true va data.length
    change (machine.store va data).2.Running start me ∧ (machine.store va data).1.map _ ≠ _ ∨
      (machine.store va data).2.Ended start me ∧ (machine.store va data).1.map _ = _
    unfold Machine.store
    split
    · rename_i trapped next refused
      rw [refused] at resolved
      simpa [Except.map] using resolved
    · rename_i used next granted
      obtain ⟨rfl, active, passed⟩ := resolveRange_ok granted
      -- What is granted is mapped, so that all of it is written.
      have written := Memory.copyOut_ok (mapped_of_granted active passed)
      rw [runs.active, Option.some.injEq] at active
      obtain ⟨⟨coupled, -, -⟩, -⟩ := runs.copyOut va data
      rw [active] at coupled
      generalize next.kernel.memory.copyOut used va data = outcome at written coupled ⊢
      obtain ⟨result, memory⟩ := outcome
      subst written
      -- Bytes are no business of the other environments.
      refine .inl ⟨⟨coupled, running.current, ?_⟩, by simp [Except.mapError, Except.map]⟩
      exact running.others.of_sameMail fun slot => .of_envAt_eq rfl

end Running

end Machine

end Exokernel
