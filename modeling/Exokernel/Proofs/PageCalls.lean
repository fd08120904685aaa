import Exokernel.Proofs.Kernel.Refusals
import Exokernel.Proofs.Outline

/-! What the system calls for pages and children do, seen by a caller that gets an answer. -/

namespace Exokernel

/-- An error is read back from its register value. -/
@[simp] theorem SysError.ofWord?_toWord (error : SysError) : ofWord? error.toWord = some error := by
  -- Every error has a code of its own.
  cases error <;> decide

/-- A result that is not an error comes from a call that succeeded. -/
theorem SysError.ok_of_encodeResult {result : Except SysError Unit}
    (fine : ofWord? (encodeResult (result.map fun () => 0)) = none) : result = .ok () := by
  -- An error would be read back as itself.
  cases result with
  | ok value => rfl
  | error error =>
    rw [Except.map, encodeResult, ofWord?_toWord] at fine
    simp at fine

namespace Kernel

variable {kernel acted : Kernel} {slot : Slot} {value : Word}

/-- A fork fills a free slot, and nothing else of the environments changes. -/
theorem Consistent.fork_ok (consistent : kernel.Consistent) (owns : kernel.current = some slot)
    (forked : kernel.fork = (.ok value, acted)) : ∃ child fresh memory,
      kernel.memory.createSpace = (.ok fresh, memory) ∧ acted.memory = memory ∧
      acted.current = kernel.current ∧ (⟨value⟩ : EnvId).slot = child ∧
      (kernel.envAt child).isLive = false ∧
      (∀ other, other ≠ child → acted.envAt other = kernel.envAt other) ∧
      ∀ other, acted.outline other =
        if other = child then ⟨⟨value⟩, some fresh, (kernel.envAt slot).frame.context.esp⟩
        else kernel.outline other := by
  -- The child gets the next id of its slot, a new space, and its parent's registers but for the
  -- result.
  simp only [fork, owner, owns] at forked
  split at forked
  · simp at forked
  · rename_i child fresh next allocated
    simp only [Prod.mk.injEq, Except.ok.injEq] at forked
    obtain ⟨rfl, rfl⟩ := forked
    have dead := consistent.not_isLive_of_allocEnv allocated
    have slots := envAt_allocEnv allocated
    have here : (next.modifyEnv child (·.asChildOf (kernel.envAt slot))).envAt child =
        (next.envAt child).asChildOf (kernel.envAt slot) := by
      rw [envAt_modifyEnv, if_pos rfl]
    have id_eq : ((next.modifyEnv child (·.asChildOf (kernel.envAt slot))).envAt child).id =
        (kernel.envAt child).id.next child := by
      rw [here, slots, if_pos rfl]
      rfl
    -- The other slots are what they were.
    have elsewhere (other : Slot) (different : other ≠ child) :
        (next.modifyEnv child (·.asChildOf (kernel.envAt slot))).envAt other =
          kernel.envAt other := by
      rw [envAt_modifyEnv, if_neg different, slots, if_neg different]
    obtain ⟨rest, memory, -, created, made⟩ := Kernel.allocEnv_ok allocated
    refine ⟨child, fresh, memory, created, ?_, ?_, ?_, dead, elsewhere, fun other => ?_⟩
    · rw [made]
      rfl
    · rw [made]
      rfl
    · -- The id leads back to the slot that it was made for.
      show ((next.modifyEnv child _).envAt child).id.slot = child
      rw [id_eq]
      exact EnvId.slot_next _ _
    · by_cases new : other = child
      · rw [if_pos new, new, outline, here, slots, if_pos rfl]
        rfl
      · rw [if_neg new, outline, elsewhere other new]
        rfl

end Kernel

namespace Machine

variable {machine next : Machine} {slot : Slot} {space : SpaceHandle} {words : Arguments}
  {word : Word}

/-- The space of the environment that an id names, with its user's own space for the zero id. -/
def addressed (machine : Machine) (space : SpaceHandle) (id : EnvId) : Option SpaceHandle :=
  if id.isSelf then some space else (machine.outline id.slot).space

/-- A caller goes on in its space, with memory changed and no outline. -/
structure Resumes (machine next : Machine) (slot : Slot) (space : SpaceHandle) (memory : Memory) :
    Prop where
  /-- The caller is running again. -/
  runs : next.Runs slot space
  /-- Memory after the call. -/
  memory_eq : next.kernel.memory = memory
  /-- Nobody got another id, space or stack pointer. -/
  outline_eq : next.outline = machine.outline

namespace Runs

/-- A call that changes no outline ends with its answer. -/
theorem resumes (runs : machine.Runs slot space) {call : Syscall} {value : Word} {acted : Kernel}
    (performed : (machine.calling slot call words).perform call words = (.stay value, acted))
    (owns : acted.current = some slot) (ready : (acted.envAt slot).isRunnable = true)
    (outlines : acted.outline = (machine.calling slot call words).outline)
    (active : acted.memory.active = machine.kernel.memory.active)
    (done : machine.syscall call words = (.ok word, next)) :
    word = value ∧ machine.Resumes next slot space acted.memory := by
  -- The space in use before the call is the caller's own, and it is in use again after it.
  obtain ⟨after, answered, again, memory, outline⟩ :=
    runs.syscall_eq performed owns ready (congrFun outlines slot)
  rw [answered, Prod.mk.injEq, Except.ok.injEq] at done
  obtain ⟨rfl, rfl⟩ := done
  refine ⟨rfl, again, ?_, outline.trans (outlines.trans (runs.outline_calling call words))⟩
  rw [memory, ← runs.active, ← active]
  rfl

/-- A call that changes memory alone, and that succeeds. -/
theorem resumes_memory (runs : machine.Runs slot space) {call : Syscall}
    {result : Except SysError Unit} {memory : Memory}
    (performed : (machine.calling slot call words).perform call words =
      Kernel.answerUnit (result, { machine.calling slot call words with memory }))
    (active : memory.active = machine.kernel.memory.active)
    (done : machine.syscall call words = (.ok word, next))
    (fine : SysError.ofWord? word = none) :
    result = .ok () ∧ machine.Resumes next slot space memory := by
  -- The caller is the same after the call, and so is what it is ready for.
  have owns : (machine.calling slot call words).current = some slot := runs.owns
  obtain ⟨rfl, resumes⟩ :=
    runs.resumes performed owns (runs.ready_calling call words) rfl active done
  exact ⟨SysError.ok_of_encodeResult fine, resumes⟩

/-- A call that is refused does not succeed. -/
theorem not_refused (runs : machine.Runs slot space) {call : Syscall} {error : SysError}
    (performed : (machine.calling slot call words).perform call words =
      Kernel.answerUnit (.error error, machine.calling slot call words))
    (done : machine.syscall call words = (.ok word, next)) :
    SysError.ofWord? word ≠ none := by
  -- A refused call changes no memory, so it ends with its error as the answer.
  intro fine
  have same : ({ machine.calling slot call words with memory := machine.kernel.memory } : Kernel) =
      machine.calling slot call words := rfl
  rw [← same] at performed
  obtain ⟨failed, -⟩ := runs.resumes_memory performed rfl done fine
  simp at failed

/-- The space of an environment that a caller may change is found by the environment's id. -/
theorem addressed_of_findOwned (runs : machine.Runs slot space) {call : Syscall} {id : EnvId}
    {target : Slot} {handle : SpaceHandle}
    (found : (machine.calling slot call words).findOwned id = .ok target)
    (held : ((machine.calling slot call words).envAt target).space = some handle) :
    machine.addressed space id = some handle := by
  -- The zero id names the caller, and any other id the environment in its slot.
  have owns : (machine.calling slot call words).current = some slot := runs.owns
  have outlines := congrFun (runs.outline_calling call words) target
  -- The space is looked up in the outlines, which the call has left alone.
  have heldSame : (machine.outline target).space = some handle := by
    rw [← outlines]
    exact held
  simp only [Kernel.findOwned, owns, EnvTable.findOwned] at found
  split at found
  · rename_i named owner looked same
    split at found
    · rename_i allowed
      simp only [Except.ok.injEq] at found
      subst found
      simp only [EnvTable.find] at looked
      unfold addressed
      split at looked
      · rename_i self
        simp only [Except.ok.injEq] at looked
        rw [if_pos self, ← runs.held, ← outline_space, looked, heldSame]
      · rename_i other
        rw [if_neg other]
        split at looked
        · simp only [Except.ok.injEq] at looked
          rw [looked, heldSame]
        · simp at looked
    · simp at found
  · simp at found

/-- A fresh page has been mapped if the call is answered without an error. -/
theorem allocPage_ok (runs : machine.Runs slot space)
    (done : machine.syscall .allocPage words = (.ok word, next))
    (fine : SysError.ofWord? word = none) : ∃ handle memory,
      machine.addressed space ⟨words.first⟩ = some handle ∧
      (⟨words.third⟩ : PageFlags).isUserPermission = true ∧
      machine.kernel.memory.mapFresh handle words.second ⟨words.third⟩ = (.ok (), memory) ∧
      machine.Resumes next slot space memory := by
  -- A call whose arguments are refused answers with an error, and this one has not.
  have performed : (machine.calling slot .allocPage words).perform .allocPage words =
      Kernel.answerUnit ((machine.calling slot .allocPage words).allocPage (.ofArguments words)) :=
    rfl
  unfold Kernel.allocPage at performed
  split at performed
  · exact absurd fine (runs.not_refused performed done)
  · rename_i handle page flags resolved
    obtain ⟨target, found, held, placed, rfl, allowed⟩ := Kernel.resolveAlloc_ok resolved
    have outside := machine.kernel.memory.sameOutside_mapFresh handle page.address ⟨words.third⟩
    obtain ⟨mapped, resumes⟩ := runs.resumes_memory performed outside.active_eq done fine
    refine ⟨handle, _, runs.addressed_of_findOwned found held, allowed, ?_, resumes⟩
    rw [show words.second = page.address from placed.symm]
    exact Prod.ext mapped rfl

/-- A page has been mapped again if the call is answered without an error. -/
theorem mapPage_ok (runs : machine.Runs slot space)
    (done : machine.syscall .mapPage words = (.ok word, next))
    (fine : SysError.ofWord? word = none) : ∃ source target frame held memory,
      machine.addressed space ⟨words.first⟩ = some source ∧
      machine.addressed space ⟨words.third⟩ = some target ∧
      machine.kernel.memory.entryAt? source words.second = some { frame, flags := held } ∧
      (⟨words.fifth⟩ : PageFlags).isUserPermission = true ∧
      machine.kernel.memory.map target words.fourth frame ⟨words.fifth⟩ = (.ok (), memory) ∧
      machine.Resumes next slot space memory := by
  -- The plan that the kernel accepts is to map what the arguments name.
  have performed : (machine.calling slot .mapPage words).perform .mapPage words =
      Kernel.answerUnit ((machine.calling slot .mapPage words).mapPage (.ofArguments words)) := rfl
  unfold Kernel.mapPage at performed
  split at performed
  · exact absurd fine (runs.not_refused performed done)
  · rename_i planned resolved
    obtain ⟨source, target, sourceSpace, held, sourceFound, targetFound, sourceHeld, targetHeld,
      placed, flags, offers⟩ := Kernel.resolveMap_ok resolved
    have outside := machine.kernel.memory.sameOutside_map planned.space planned.va planned.frame
      planned.flags
    -- Mapping switches no space, so that the caller goes on in its own.
    obtain ⟨applied, resumes⟩ := runs.resumes_memory performed outside.active_eq done fine
    have allowed := offers.allowed
    have mapped := PlannedMapping.apply_ok (Prod.ext applied rfl :
      planned.apply machine.kernel.memory = (.ok (), _))
    rw [flags] at allowed
    rw [placed, flags] at mapped
    exact ⟨sourceSpace, planned.space, planned.frame, held, _,
      runs.addressed_of_findOwned sourceFound sourceHeld,
      runs.addressed_of_findOwned targetFound targetHeld, offers.mapped, allowed, mapped, resumes⟩

/-- A mapping has been removed if the call is answered without an error. -/
theorem unmapPage_ok (runs : machine.Runs slot space)
    (done : machine.syscall .unmapPage words = (.ok word, next))
    (fine : SysError.ofWord? word = none) : ∃ handle,
      machine.addressed space ⟨words.first⟩ = some handle ∧
      machine.Resumes next slot space (machine.kernel.memory.unmap handle words.second).2 := by
  -- Once the arguments are accepted, removing the mapping cannot fail.
  have performed : (machine.calling slot .unmapPage words).perform .unmapPage words =
      Kernel.answerUnit ((machine.calling slot .unmapPage words).unmapPage (.ofArguments words)) :=
    rfl
  unfold Kernel.unmapPage at performed
  split at performed
  · exact absurd fine (runs.not_refused performed done)
  · rename_i handle page resolved
    obtain ⟨target, found, held, placed⟩ := Kernel.resolveUnmap_ok resolved
    have outside := machine.kernel.memory.sameOutside_unmap handle page.address
    obtain ⟨-, resumes⟩ := runs.resumes_memory performed outside.active_eq done fine
    rw [placed] at resumes
    exact ⟨handle, runs.addressed_of_findOwned found held, resumes⟩

/-- A call that changes neither outlines nor memory, nor stops the caller. -/
theorem resumes_modifyEnv (runs : machine.Runs slot space) {call : Syscall} {value : Word}
    {target : Slot} {change : Env → Env}
    (performed : (machine.calling slot call words).perform call words =
      (.stay value, (machine.calling slot call words).modifyEnv target change))
    (kept : ∀ env, (change env).outline = env.outline)
    (ready : ∀ env, env.isRunnable = true → (change env).isRunnable = true)
    (done : machine.syscall call words = (.ok word, next)) :
    machine.Resumes next slot space machine.kernel.memory := by
  -- The environment that is changed may be the caller itself, which must still be able to run.
  have owns : ((machine.calling slot call words).modifyEnv target change).current = some slot :=
    runs.owns
  refine (runs.resumes performed owns ?_ ?_ rfl done).2
  · rw [Kernel.envAt_modifyEnv]
    split
    · rename_i same
      rw [← same]
      exact ready _ (runs.ready_calling call words)
    · exact runs.ready_calling call words
  · exact (machine.calling slot call words).outline_modifyEnv target (kept _)

/-- A fault entry point that is set leaves memory alone. -/
theorem setFaultEntry_ok (runs : machine.Runs slot space)
    (done : machine.syscall .setFaultEntry words = (.ok word, next))
    (fine : SysError.ofWord? word = none) :
    machine.Resumes next slot space machine.kernel.memory := by
  have performed : (machine.calling slot .setFaultEntry words).perform .setFaultEntry words =
      Kernel.answerUnit ((machine.calling slot .setFaultEntry words).setFaultEntry ⟨words.first⟩
        words.second) := rfl
  unfold Kernel.setFaultEntry at performed
  -- An environment that the caller may not change would have made an error.
  split at performed
  · exact absurd fine (runs.not_refused performed done)
  · exact runs.resumes_modifyEnv performed (fun _ => rfl) (fun _ => id) done

/-- An environment that is made runnable leaves memory alone. -/
theorem setStatus_ok (runs : machine.Runs slot space)
    (wakes : words.second = Status.runnable.toWord)
    (done : machine.syscall .setStatus words = (.ok word, next))
    (fine : SysError.ofWord? word = none) :
    machine.Resumes next slot space machine.kernel.memory := by
  -- Of the statuses that may be set, the word means the one that lets an environment run.
  have settable : Kernel.settableStatus words.second = .ok .runnable := by
    rw [wakes]
    decide
  have performed : (machine.calling slot .setStatus words).perform .setStatus words =
      Kernel.answerUnit ((machine.calling slot .setStatus words).setStatus ⟨words.first⟩
        words.second) := rfl
  unfold Kernel.setStatus at performed
  rw [settable] at performed
  split at performed
  · rename_i status target same found
    simp only [Except.ok.injEq] at same
    subst same
    -- A change of status leaves the caller able to run.
    exact runs.resumes_modifyEnv performed (fun _ => rfl) (fun _ _ => rfl) done
  · rename_i error failed
    exact absurd fine (runs.not_refused performed done)
  · rename_i error failed
    exact absurd fine (runs.not_refused performed done)

/-- Asking for one's own id leaves memory alone. -/
theorem currentEnv_ok (runs : machine.Runs slot space)
    (done : machine.syscall .currentEnv words = (.ok word, next)) :
    machine.Resumes next slot space machine.kernel.memory := by
  -- The call does nothing but answer.
  have owns : (machine.calling slot .currentEnv words).current = some slot := runs.owns
  exact (runs.resumes rfl owns (runs.ready_calling _ _) rfl rfl done).2

/-- A fork whose answer is not an error was granted. -/
theorem fork_granted (runs : machine.Runs slot space)
    (done : machine.syscall .fork words = (.ok word, next))
    (fine : SysError.ofWord? word = none) :
    ∃ value acted, (machine.calling slot .fork words).fork = (.ok value, acted) := by
  cases forked : (machine.calling slot .fork words).fork with
  | mk result acted =>
    cases result with
    | ok value => exact ⟨value, acted, rfl⟩
    | error error =>
      -- A refused fork may have changed memory, but the caller goes on with the error.
      have failed : (machine.calling slot .fork words).fork.1 = .error error := by rw [forked]
      obtain ⟨memory, unchanged, -⟩ := Kernel.unchanged_fork failed
      rw [forked] at unchanged
      obtain rfl : acted = { machine.calling slot .fork words with memory } := unchanged
      have performed : (machine.calling slot .fork words).perform .fork words =
          Kernel.answer (machine.calling slot .fork words).fork := rfl
      rw [forked] at performed
      obtain ⟨after, answered, -⟩ :=
        runs.syscall_eq performed runs.owns (runs.ready_calling .fork words) rfl
      rw [answered, Prod.mk.injEq, Except.ok.injEq] at done
      rw [← done.1, SysError.encodeResult, SysError.ofWord?_toWord] at fine
      simp at fine

/-- A fork gives a new environment an empty space and the stack pointer of its parent. -/
theorem fork_ok (runs : machine.Runs slot space)
    (done : machine.syscall .fork words = (.ok word, next))
    (fine : SysError.ofWord? word = none) : ∃ child fresh memory,
      machine.kernel.memory.createSpace = (.ok fresh, memory) ∧ next.Runs slot space ∧
      next.kernel.memory = memory ∧ (⟨word⟩ : EnvId).slot = child ∧ child ≠ slot ∧
      ∀ other, next.outline other =
        if other = child then ⟨⟨word⟩, some fresh, machine.context.esp⟩
        else machine.outline other := by
  have ready := runs.ready_calling .fork words
  have outlines := runs.outline_calling .fork words
  obtain ⟨value, acted, forked⟩ := runs.fork_granted done fine
  have performed : (machine.calling slot .fork words).perform .fork words =
      Kernel.answer (machine.calling slot .fork words).fork := rfl
  rw [forked] at performed
  obtain ⟨child, fresh, memory, created, memory_eq, current, named, dead, others⟩ :=
    (runs.consistent_calling .fork words).fork_ok runs.owns forked
  -- The caller is alive, so it is not the child.
  have apart : slot ≠ child := by
    rintro rfl
    rw [Env.isLive_of_isRunnable ready] at dead
    simp at dead
  have kept : acted.outline slot = (machine.calling slot .fork words).outline slot := by
    rw [others.2, if_neg apart]
  -- The caller goes on with the id of the child.
  obtain ⟨after, answered, again, last, outline⟩ := runs.syscall_eq performed
    (current.trans runs.owns) (by rw [others.1 slot apart]; exact ready) kept
  rw [answered, Prod.mk.injEq, Except.ok.injEq] at done
  obtain ⟨rfl, rfl⟩ := done
  have created : machine.kernel.memory.createSpace = (.ok fresh, memory) := created
  obtain ⟨-, -, -, active⟩ := Memory.createSpace_ok_spec created
  -- The child starts from the stack pointer of its parent.
  have stack : ((machine.calling slot .fork words).envAt slot).frame.context.esp =
      machine.context.esp := by
    have same := congrArg Outline.stack (congrFun outlines slot)
    rwa [runs.outline_eq] at same
  refine ⟨child, fresh, memory, created, again, ?_, named, Ne.symm apart, fun other => ?_⟩
  · rw [last, ← runs.active, ← active]
    exact memory_eq ▸ rfl
  · rw [outline, ← outlines, ← stack]
    exact others.2 other

end Runs

end Machine

end Exokernel
