import Exokernel.Proofs.Kernel.Consistent

/-! Environments come and go without disturbing the others. -/

namespace Exokernel

/-- A new environment starts in user mode. -/
theorem TrapFrame.fromUser_initial : TrapFrame.initial.fromUser = true := by decide

namespace Kernel

variable {kernel next : Kernel} {slot other : Slot} {space : SpaceHandle} {parent : EnvId}

/-- A new environment takes the first free slot and a space of its own. -/
theorem allocEnv_ok (allocated : kernel.allocEnv parent = (.ok (slot, space), next)) :
    ∃ rest memory, kernel.envs.free = slot :: rest ∧
      kernel.memory.createSpace = (.ok space, memory) ∧
      next = { kernel with
        memory
        envs := { kernel.envs with free := rest }.put slot
          (.fresh ((kernel.envAt slot).id.next slot) parent space) } := by
  -- There must be a free slot, and then memory for a directory.
  simp only [allocEnv] at allocated
  split at allocated
  · simp at allocated
  · rename_i first rest listed
    split at allocated
    · simp at allocated
    · rename_i made memory created
      simp only [Prod.mk.injEq, Except.ok.injEq] at allocated
      obtain ⟨⟨rfl, rfl⟩, rfl⟩ := allocated
      exact ⟨rest, memory, listed, created, rfl⟩

/-- An environment that cannot be created changes at most the memory, and that in no visible way. -/
theorem allocEnv_error {error : SysError}
    (refused : kernel.allocEnv parent = (.error error, next)) :
    next = kernel ∨ ∃ cause memory, kernel.memory.createSpace = (.error cause, memory) ∧
      next = { kernel with memory } := by
  -- Without a free slot nothing is tried; otherwise it was the directory that failed.
  simp only [allocEnv] at refused
  split at refused
  · simp only [Prod.mk.injEq] at refused
    exact .inl refused.2.symm
  · split at refused
    · rename_i cause memory failed
      simp only [Prod.mk.injEq] at refused
      exact .inr ⟨cause, memory, failed, refused.2.symm⟩
    · simp at refused

/-- A new environment changes no slot but its own. -/
theorem envAt_allocEnv (allocated : kernel.allocEnv parent = (.ok (slot, space), next))
    (other : Slot) : next.envAt other =
      if other = slot then .fresh ((kernel.envAt slot).id.next slot) parent space
      else kernel.envAt other := by
  -- The record is put in the slot, and memory is not looked at.
  obtain ⟨rest, memory, -, -, rfl⟩ := allocEnv_ok allocated
  exact EnvTable.get_put _ slot other _

/-- An environment that goes leaves all slots but its own as they were. -/
theorem envAt_freeEnv (kernel : Kernel) (slot other : Slot) : (kernel.freeEnv slot).envAt other =
    if other = slot then (kernel.envAt slot).vacated else kernel.envAt other :=
  kernel.envs.get_modify slot other Env.vacated

/-- What stays of an environment that goes is the same in every slot. -/
theorem view_freeEnv {α : Sort*} (view : Env → α) (kernel : Kernel) (slot other : Slot)
    (kept : view (kernel.envAt slot).vacated = view (kernel.envAt slot)) :
    view ((kernel.freeEnv slot).envAt other) = view (kernel.envAt other) := by
  -- The slot itself is vacated, and others keep everything.
  rw [envAt_freeEnv]
  split
  · rename_i here
    rw [here, kept]
  · rfl

/-- An environment that goes takes its space with it, which is out of use by then. -/
theorem memory_freeEnv (held : (kernel.envAt slot).space = some space) :
    (kernel.freeEnv slot).memory =
      ((if kernel.current = some slot then kernel.memory.activate none
        else kernel.memory).destroySpace space).2 := by
  -- The space is switched off first if it is the running one's.
  simp only [freeEnv, held]

/-- An environment that goes leaves all spaces but its own as they were. -/
theorem table?_freeEnv (held : (kernel.envAt slot).space = some space) (handle : SpaceHandle) :
    (kernel.freeEnv slot).memory.table? handle =
      if handle = space then none else kernel.memory.table? handle := by
  -- Switching the space off first makes no difference to the tables.
  rw [memory_freeEnv held, Memory.destroySpace_spec]
  split
  · rfl
  · split <;> rfl

namespace Consistent

/-- A free slot has no address space. -/
theorem space_of_free (consistent : kernel.Consistent) (listed : slot ∈ kernel.envs.free) :
    (kernel.envAt slot).isLive = false ∧ (kernel.envAt slot).space = none := by
  -- Listed slots are free, and free slots hold nothing.
  have status := (consistent.envs.mem_free slot).mp listed
  refine ⟨?_, (consistent.envs.vacant slot status).1⟩
  rw [envAt, Env.isLive, status]
  rfl

/-- The slot of a new environment was free before. -/
theorem not_isLive_of_allocEnv (consistent : kernel.Consistent)
    (allocated : kernel.allocEnv parent = (.ok (slot, space), next)) :
    (kernel.envAt slot).isLive = false := by
  -- The slot was the head of the free list.
  obtain ⟨rest, memory, first, -, -⟩ := allocEnv_ok allocated
  exact (consistent.space_of_free (first ▸ List.mem_cons_self)).1

section Creation

-- A new environment has taken a slot, and a space of its own.
variable (consistent : kernel.Consistent)
  (allocated : kernel.allocEnv parent = (.ok (slot, space), next))
include allocated

omit consistent in
/-- A space that existed before is not the new one, and still exists. -/
theorem older_allocEnv {handle : SpaceHandle}
    (found : (kernel.memory.table? handle).isSome = true) :
    handle ≠ space ∧ (next.memory.table? handle).isSome = true := by
  obtain ⟨rest, memory, -, created, rfl⟩ := Kernel.allocEnv_ok allocated
  -- The new space was vacant, and an old one was not.
  obtain ⟨vacant, -, others, -⟩ := Memory.createSpace_ok_spec created
  have different : handle ≠ space := by
    rintro rfl
    simp [vacant] at found
  exact ⟨different, by rw [others handle different, found]⟩

include consistent

/-- Nobody had the space of a new environment before. -/
theorem ne_space_of_allocEnv {handle : SpaceHandle}
    (held : (kernel.envAt other).space = some handle) : handle ≠ space := by
  -- Spaces of environments exist, and the new one did not.
  obtain ⟨named, same, found⟩ := consistent.owns other (consistent.isLive_of_space held)
  rw [held, Option.some.injEq] at same
  exact same ▸ (older_allocEnv allocated found).1

/-- The new environment has the new space, and the others have what they had. -/
theorem owns_allocEnv (other : Slot) (live : (next.envAt other).isLive = true) :
    ∃ handle, (next.envAt other).space = some handle ∧
      (next.memory.table? handle).isSome = true := by
  have slots := envAt_allocEnv allocated
  rw [slots] at live ⊢
  -- The slot is the new one, or it is as before.
  split at live
  · rename_i new
    obtain ⟨rest, memory, -, created, rfl⟩ := Kernel.allocEnv_ok allocated
    obtain ⟨-, exists_, -⟩ := Memory.createSpace_ok_spec created
    rw [if_pos new]
    exact ⟨space, rfl, exists_⟩
  · rename_i old
    obtain ⟨handle, held, found⟩ := consistent.owns other live
    rw [if_neg old]
    exact ⟨handle, held, (older_allocEnv allocated found).2⟩

/-- The new space belongs to the new environment, and the others to whom they belonged. -/
theorem owned_allocEnv (handle : SpaceHandle)
    (found : (next.memory.table? handle).isSome = true) :
    ∃ other, (next.envAt other).space = some handle := by
  have slots := envAt_allocEnv allocated
  by_cases new : handle = space
  · exact ⟨slot, by rw [slots, if_pos rfl, new]; rfl⟩
  · obtain ⟨rest, memory, first, created, rfl⟩ := Kernel.allocEnv_ok allocated
    obtain ⟨-, -, others, -⟩ := Memory.createSpace_ok_spec created
    have before : (kernel.memory.table? handle).isSome = true := by
      rw [← others handle new]
      exact found
    obtain ⟨other, held⟩ := consistent.owned handle before
    -- A free slot had no space.
    obtain ⟨-, empty⟩ := consistent.space_of_free (first ▸ List.mem_cons_self)
    have different : other ≠ slot := by
      rintro rfl
      simp [empty] at held
    exact ⟨other, by rw [slots, if_neg different, held]⟩

/-- The new environment shares its space with nobody, and the others share none either. -/
theorem distinct_allocEnv (left right : Slot) (handle : SpaceHandle) :
    (next.envAt left).space = some handle → (next.envAt right).space = some handle →
      left = right := by
  -- No environment of before has the space that is new.
  have apart {other : Slot} (fresh : some space = some handle)
      (old : (kernel.envAt other).space = some handle) : False :=
    consistent.ne_space_of_allocEnv allocated old (Option.some.inj fresh).symm
  rw [envAt_allocEnv allocated, envAt_allocEnv allocated]
  split
  · split
    · rename_i first second
      exact fun _ _ => first.trans second.symm
    · exact fun new old => (apart new old).elim
  · split
    · exact fun old new => (apart new old).elim
    · exact consistent.distinct left right handle

/-- Creating an environment keeps the kernel consistent. -/
theorem allocEnv_ok : next.Consistent := by
  -- Every fact is about the new slot, or about another slot that did not change.
  have slots := envAt_allocEnv allocated
  have owns := consistent.owns_allocEnv allocated
  have owned := consistent.owned_allocEnv allocated
  have distinct := consistent.distinct_allocEnv allocated
  have dead := consistent.not_isLive_of_allocEnv allocated
  obtain ⟨rest, memory, first, created, rfl⟩ := Kernel.allocEnv_ok allocated
  obtain ⟨-, -, -, active⟩ := Memory.createSpace_ok_spec created
  refine
    { memory := consistent.memory.createSpace_ok created
      envs := consistent.envs.take first parent space
      owns
      owned
      distinct
      userMode := fun other => ?_
      landing := fun other va => ?_
      running := fun other current => ?_
      idle := fun current => active.trans (consistent.idle current) }
  · rw [slots]
    split
    · exact fun _ => TrapFrame.fromUser_initial
    · exact consistent.userMode other
  · rw [slots]
    split
    · simp [Env.fresh]
    · exact consistent.landing other va
  · -- Whoever runs existed before.
    obtain ⟨live, last, used⟩ := consistent.running other current
    have different : other ≠ slot := by
      rintro rfl
      simp [dead] at live
    rw [slots, if_neg different]
    exact ⟨live, last, active.trans used⟩

end Creation

/-- An environment that cannot be created leaves the kernel consistent. -/
theorem allocEnv_error (consistent : kernel.Consistent) {error : SysError}
    (refused : kernel.allocEnv parent = (.error error, next)) : next.Consistent := by
  -- At most the pool has changed, and the space that failed left no trace.
  rcases Kernel.allocEnv_error refused with rfl | ⟨cause, memory, failed, rfl⟩
  · exact consistent
  · obtain ⟨spaces, active⟩ := Memory.createSpace_error_spec failed
    exact consistent.setMemory (consistent.memory.createSpace_error failed)
      (fun handle => by rw [Memory.table?_congr spaces]) active

/-- The space of the owner of the processor stays in use unless the owner itself goes. -/
theorem active_freeEnv (consistent : kernel.Consistent)
    (held : (kernel.envAt slot).space = some space) : (kernel.freeEnv slot).memory.active =
      if kernel.current = some slot then none else kernel.memory.active := by
  rw [memory_freeEnv held]
  split
  · exact Memory.active_destroySpace _ (by simp [Memory.activate])
  · rename_i elsewhere
    -- The space in use belongs to the owner, who is somebody else.
    refine Memory.active_destroySpace _ fun used => ?_
    cases current : kernel.current with
    | none => simp [consistent.idle current] at used
    | some owner =>
      rw [(consistent.running owner current).2.2] at used
      exact elsewhere (by rw [current, consistent.distinct owner slot space used held])

section Destruction

-- An environment is about to go, with its space.
variable (consistent : kernel.Consistent) (held : (kernel.envAt slot).space = some space)
include consistent held

/-- The environments that stay have their spaces. -/
theorem owns_freeEnv (other : Slot) (live : ((kernel.freeEnv slot).envAt other).isLive = true) :
    ∃ handle, ((kernel.freeEnv slot).envAt other).space = some handle ∧
      ((kernel.freeEnv slot).memory.table? handle).isSome = true := by
  rw [envAt_freeEnv] at live ⊢
  split at live
  · simp [Env.isLive, Env.vacated] at live
  · rename_i different
    obtain ⟨handle, has, found⟩ := consistent.owns other live
    -- Its space is not the one that goes, since that was of another environment.
    have apart : handle ≠ space := by
      rintro rfl
      exact different (consistent.distinct other slot handle has held)
    rw [if_neg different]
    exact ⟨handle, has, by rw [table?_freeEnv held, if_neg apart, found]⟩

/-- The spaces that stay belong to environments that stay. -/
theorem owned_freeEnv (handle : SpaceHandle)
    (found : ((kernel.freeEnv slot).memory.table? handle).isSome = true) :
    ∃ other, ((kernel.freeEnv slot).envAt other).space = some handle := by
  rw [table?_freeEnv held] at found
  split at found
  · simp at found
  · rename_i apart
    obtain ⟨other, has⟩ := consistent.owned handle found
    -- The owner is not the one that goes, since that had the space that goes.
    have different : other ≠ slot := by
      rintro rfl
      rw [held, Option.some.injEq] at has
      exact apart has.symm
    exact ⟨other, by rw [envAt_freeEnv, if_neg different, has]⟩

omit held in
/-- The environments that stay share no space. -/
theorem distinct_freeEnv (first second : Slot) (handle : SpaceHandle) :
    ((kernel.freeEnv slot).envAt first).space = some handle →
      ((kernel.freeEnv slot).envAt second).space = some handle → first = second := by
  -- A slot that is vacated has no space, and the others keep theirs.
  rw [envAt_freeEnv, envAt_freeEnv]
  split
  · simp [Env.vacated]
  · split
    · simp [Env.vacated]
    · exact consistent.distinct first second handle

end Destruction

/--
Destroying an environment keeps the kernel consistent, once it is clear who owns the processor.
-/
theorem freeEnv (consistent : kernel.Consistent) (live : (kernel.envAt slot).isLive = true)
    {current : Option Slot}
    (left : current = if kernel.current = some slot then none else kernel.current) :
    { kernel.freeEnv slot with current }.Consistent := by
  -- Every fact is about the slot that goes, or about another slot that did not change.
  obtain ⟨space, held, -⟩ := consistent.owns slot live
  have slots := envAt_freeEnv kernel slot
  have active := consistent.active_freeEnv held
  refine
    { memory := ?_
      envs := consistent.envs.vacate live
      owns := consistent.owns_freeEnv held
      owned := consistent.owned_freeEnv held
      distinct := consistent.distinct_freeEnv
      userMode := fun other => ?_
      landing := fun other va => ?_
      running := fun other owns => ?_
      idle := fun unowned => active.trans ?_ }
  · -- The space that goes is left first, if it is the one in use.
    show (kernel.freeEnv slot).memory.Sound (FramePool.listed kernel.config.frames) 0
    rw [memory_freeEnv held]
    refine Memory.Sound.destroySpace ?_ space
    split
    · exact consistent.memory.activate none
    · exact consistent.memory
  · show ((kernel.freeEnv slot).envAt other).isLive = true →
      ((kernel.freeEnv slot).envAt other).frame.fromUser = true
    rw [slots]
    split
    · simp [Env.isLive, Env.vacated]
    · exact consistent.userMode other
  · show ((kernel.freeEnv slot).envAt other).mailbox.landing = some va →
      isAligned va = true ∧ va < userTop
    rw [slots]
    split
    · simp [Env.vacated]
    · exact consistent.landing other va
  · -- Whoever still owns the processor is not the one that goes.
    show ((kernel.freeEnv slot).envAt other).isLive = true ∧ kernel.lastRun = some other ∧
      (kernel.freeEnv slot).memory.active = ((kernel.freeEnv slot).envAt other).space
    simp only at owns
    rw [left] at owns
    split at owns
    · simp at owns
    · rename_i elsewhere
      have different : other ≠ slot := by
        rintro rfl
        exact elsewhere owns
      rw [slots, if_neg different, active, if_neg elsewhere]
      exact consistent.running other owns
  · -- If nobody owns the processor now, the one that goes did, or nobody did before.
    simp only at unowned
    rw [left] at unowned
    split
    · rfl
    · rename_i elsewhere
      rw [if_neg elsewhere] at unowned
      exact consistent.idle unowned

end Consistent

end Kernel

end Exokernel
