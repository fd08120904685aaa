import Exokernel.Proofs.Kernel.Requests
import Exokernel.Proofs.Kernel.Schedule
import Exokernel.Proofs.Memory.Spaces

/-! The environment table, the address spaces and the processor agree with each other. -/

namespace Exokernel

/-- An environment that can run exists. -/
theorem Env.isLive_of_isRunnable {env : Env} (ready : env.isRunnable = true) :
    env.isLive = true := by
  -- A free slot has another status.
  simp_all [Env.isRunnable, Env.isLive]

/-- An environment that waits for a message exists. -/
theorem Env.isLive_of_awaitsMessage {env : Env} (waits : env.awaitsMessage = true) :
    env.isLive = true := by
  -- A free slot has another status.
  simp_all [Env.awaitsMessage, Env.isLive]

namespace Kernel

/-- What holds between the parts of the kernel at every point of a kernel entry. -/
structure Consistent (kernel : Kernel) : Prop where
  /-- Every reference to a frame is accounted for. -/
  memory : kernel.memory.Sound (FramePool.listed kernel.config.frames) 0
  /-- Slots, free list and ids are in order. -/
  envs : kernel.envs.Sound
  /-- Every environment has an address space that exists. -/
  owns : ∀ slot, (kernel.envAt slot).isLive = true →
    ∃ space, (kernel.envAt slot).space = some space ∧ (kernel.memory.table? space).isSome = true
  /-- Every address space belongs to an environment. -/
  owned : ∀ space, (kernel.memory.table? space).isSome = true →
    ∃ slot, (kernel.envAt slot).space = some space
  /-- No two environments share an address space. -/
  distinct : ∀ slot other space, (kernel.envAt slot).space = some space →
    (kernel.envAt other).space = some space → slot = other
  /-- Environments resume in user mode. -/
  userMode : ∀ slot, (kernel.envAt slot).isLive = true →
    (kernel.envAt slot).frame.fromUser = true
  /-- Pages of messages land on pages of user memory. -/
  landing : ∀ slot va, (kernel.envAt slot).mailbox.landing = some va →
    isAligned va = true ∧ va < userTop
  /-- The owner of the processor exists, was dispatched last, and has its space in use. -/
  running : ∀ slot, kernel.current = some slot → (kernel.envAt slot).isLive = true ∧
    kernel.lastRun = some slot ∧ kernel.memory.active = (kernel.envAt slot).space
  /-- No space is in use while nobody owns the processor. -/
  idle : kernel.current = none → kernel.memory.active = none

/-- What holds in addition between kernel entries: the owner of the processor can run. -/
structure Settled (kernel : Kernel) : Prop extends Consistent kernel where
  /-- An environment that cannot run does not keep the processor. -/
  ready : ∀ slot, kernel.current = some slot → (kernel.envAt slot).isRunnable = true

/-- What an environment may not lose when it changes. -/
structure Keeps (before after : Env) : Prop where
  /-- It still exists. -/
  alive : after.status = .runnable ∨ after.status = .notRunnable
  /-- It has the same id. -/
  id_eq : after.id = before.id
  /-- It has the same address space. -/
  space_eq : after.space = before.space
  /-- It still resumes in user mode. -/
  userMode : before.frame.fromUser = true → after.frame.fromUser = true
  /-- Pages that it takes still land in user memory. -/
  landing : ∀ va, after.mailbox.landing = some va →
    before.mailbox.landing = some va ∨ isAligned va = true ∧ va < userTop

namespace Consistent

variable {kernel next : Kernel} {slot owner : Slot} {space : SpaceHandle}

/-- A slot with an address space holds an environment. -/
theorem isLive_of_space (consistent : kernel.Consistent)
    (held : (kernel.envAt slot).space = some space) : (kernel.envAt slot).isLive = true := by
  -- A free slot has no space.
  by_contra dead
  have status : (kernel.envAt slot).status = .free := by simpa [Env.isLive] using dead
  have empty := (consistent.envs.vacant slot status).1
  rw [← envAt, held] at empty
  simp at empty

/-- Where only the first slots have been taken, environments are in those. -/
theorem val_lt_of_isLive (consistent : kernel.Consistent) {count : Nat}
    (taken : kernel.envs.free = (List.finRange slotCount).drop count)
    (live : (kernel.envAt slot).isLive = true) : slot.val < count := by
  -- All slots from there on are free.
  by_contra late
  have free : slot ∈ kernel.envs.free := by
    rw [taken]
    refine List.mem_of_getElem? (i := slot.val - count) ?_
    rw [List.getElem?_drop, Nat.add_sub_cancel' (not_lt.mp late)]
    simp
  rw [consistent.envs.mem_free, ← envAt] at free
  simp [Env.isLive, free] at live

/-- Consistency does not depend on the clock, the console and the monitor. -/
theorem congr (consistent : kernel.Consistent) (config : next.config = kernel.config)
    (envs : next.envs = kernel.envs) (memory : next.memory = kernel.memory)
    (current : next.current = kernel.current) (lastRun : next.lastRun = kernel.lastRun) :
    next.Consistent := by
  -- What is left to differ is the clock, the console and the monitor.
  obtain ⟨config', envs', memory', current', lastRun', console, monitor, clock⟩ := next
  subst config envs memory current lastRun
  exact ⟨consistent.memory, consistent.envs, consistent.owns, consistent.owned,
    consistent.distinct, consistent.userMode, consistent.landing, consistent.running,
    consistent.idle⟩

/-- Memory may change as long as it stays sound and no space comes, goes or is switched to. -/
theorem setMemory (consistent : kernel.Consistent) {memory : Memory}
    (sound : memory.Sound (FramePool.listed kernel.config.frames) 0)
    (same : ∀ other, (memory.table? other).isSome = (kernel.memory.table? other).isSome)
    (active : memory.active = kernel.memory.active) : { kernel with memory }.Consistent where
  memory := sound
  envs := consistent.envs
  owns slot live := by
    -- All that is said about spaces is whether they exist and whose they are.
    obtain ⟨space, held, exists_⟩ := consistent.owns slot live
    exact ⟨space, held, (same space).trans exists_⟩
  owned space exists_ := consistent.owned space ((same space).symm.trans exists_)
  distinct := consistent.distinct
  userMode := consistent.userMode
  landing := consistent.landing
  running slot current := by
    obtain ⟨live, last, used⟩ := consistent.running slot current
    exact ⟨live, last, active.trans used⟩
  idle current := active.trans (consistent.idle current)

/-- An environment may change as long as it keeps what the kernel relies on. -/
theorem modifyEnv (consistent : kernel.Consistent) {change : Env → Env}
    (live : (kernel.envAt slot).isLive = true)
    (keeps : Keeps (kernel.envAt slot) (change (kernel.envAt slot))) :
    (kernel.modifyEnv slot change).Consistent := by
  have spaces (other : Slot) :
      ((kernel.modifyEnv slot change).envAt other).space = (kernel.envAt other).space :=
    view_modifyEnv Env.space kernel slot other keeps.space_eq
  have lives (other : Slot) :
      ((kernel.modifyEnv slot change).envAt other).isLive = (kernel.envAt other).isLive := by
    refine view_modifyEnv Env.isLive kernel slot other ?_
    rw [live]
    rcases keeps.alive with status | status <;> simp [Env.isLive, status]
  -- Spaces and existence are as before, so most facts carry over.
  refine
    { memory := consistent.memory
      envs := consistent.envs.modify live keeps.alive keeps.id_eq
      owns := fun other => ?_
      owned := fun space => ?_
      distinct := fun first second space => ?_
      userMode := fun other => ?_
      landing := fun other va => ?_
      running := fun other => ?_
      idle := consistent.idle }
  · rw [lives, spaces]
    exact consistent.owns other
  · intro exists_
    obtain ⟨other, held⟩ := consistent.owned space exists_
    exact ⟨other, (spaces other).trans held⟩
  · rw [spaces, spaces]
    exact consistent.distinct first second space
  · -- The mode and the landing page are what the change itself must answer for.
    rw [lives, envAt_modifyEnv]
    split
    · rename_i same
      rw [same]
      exact fun _ => keeps.userMode (consistent.userMode slot live)
    · exact consistent.userMode other
  · rw [envAt_modifyEnv]
    split
    · intro wanted
      rcases keeps.landing va wanted with before | good
      · exact consistent.landing slot va before
      · exact good
    · exact consistent.landing other va
  · rw [lives, spaces]
    exact consistent.running other

end Consistent

end Kernel

end Exokernel
