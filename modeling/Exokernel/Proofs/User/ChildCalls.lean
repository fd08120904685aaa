import Exokernel.Proofs.User.Outcomes

/-! How the calls end that a parent makes for its child: none is refused once there is a child. -/

namespace Exokernel

/-- The profile of a child that nobody has seen yet: it is blocked, and handles no faults. -/
def Env.newborn (id parent : EnvId) (space : SpaceHandle) : Env :=
  { id, parent, status := .notRunnable, space := some space }

namespace Kernel

variable {kernel acted : Kernel} {slot : Slot} {value : Word}

/-- An environment that goes leaves its slot vacated, and no other profile changes. -/
theorem profile_freeEnv (kernel : Kernel) (slot : Slot) : (kernel.freeEnv slot).profile =
    Function.update kernel.profile slot (kernel.profile slot).vacated := by
  -- The slot itself is vacated, and others are left alone.
  funext other
  rw [profile, envAt_freeEnv, Function.update_apply]
  split <;> rfl

/-- A fork puts a newborn child into a slot that was free. -/
theorem Consistent.profile_fork (consistent : kernel.Consistent)
    (owns : kernel.current = some slot) (forked : kernel.fork = (.ok value, acted)) :
    ∃ child, kernel.memory.createSpace = (.ok child, acted.memory) ∧
      acted.current = some slot ∧ acted.config = kernel.config ∧
      (⟨value⟩ : EnvId).isSelf = false ∧
      (kernel.envAt (⟨value⟩ : EnvId).slot).isLive = false ∧
      acted.profile = Function.update kernel.profile (⟨value⟩ : EnvId).slot
        (.newborn ⟨value⟩ (kernel.envAt slot).id child) := by
  simp only [fork, owner, owns] at forked
  split at forked
  · simp at forked
  · rename_i place child made allocated
    simp only [Prod.mk.injEq, Except.ok.injEq] at forked
    obtain ⟨rfl, rfl⟩ := forked
    have dead := consistent.not_isLive_of_allocEnv allocated
    have slots := envAt_allocEnv allocated
    obtain ⟨rest, memory, -, created, made_eq⟩ := Kernel.allocEnv_ok allocated
    -- The id of the child is the next one of its slot, and leads back there.
    have id_eq : ((made.modifyEnv place (·.asChildOf (kernel.envAt slot))).envAt place).id =
        (kernel.envAt place).id.next place := by
      rw [envAt_modifyEnv, if_pos rfl, slots, if_pos rfl]
      rfl
    have positive := ((kernel.envAt place).id.next_bounds place).1
    rw [id_eq]
    refine ⟨child, ?_, ?_, ?_, ?_, ?_, ?_⟩
    · rw [created, made_eq]
      rfl
    · rw [made_eq]
      exact owns
    · rw [made_eq]
      rfl
    · rw [EnvId.isSelf, beq_eq_false_iff_ne]
      -- An id is a positive number, and zero names the caller itself.
      intro zero
      rw [zero] at positive
      exact absurd positive (by decide)
    · rw [EnvId.slot_next]
      exact dead
    · -- Of the profiles only that of the child is new.
      funext other
      rw [EnvId.slot_next, Function.update_apply, profile_modifyEnv]
      split
      · rw [slots, if_pos rfl]
        rfl
      · rename_i elsewhere
        rw [profile, slots, if_neg elsewhere, profile]

end Kernel

namespace Program

variable {η : Type} {before after start now next : UserState η Machine} {slot : Slot}
  {space child : SpaceHandle} {id : EnvId} {env : Env}

/-- An environment runs on, and one slot has another profile. -/
structure Alters (before after : UserState η Machine) (slot : Slot) (space : SpaceHandle)
    (target : Slot) (env : Env) : Prop where
  /-- The environment runs. -/
  runs : after.cpu.Runs slot space
  /-- The slot has the profile, and no other one has changed. -/
  profile_eq : after.cpu.kernel.profile = Function.update before.cpu.kernel.profile target env
  /-- Memory is the same. -/
  memory_eq : after.cpu.kernel.memory = before.cpu.kernel.memory
  /-- The configuration never changes. -/
  config_eq : after.cpu.kernel.config = before.cpu.kernel.config

/-- An environment runs on, and has a child that it may change. -/
structure Tends (start now : UserState η Machine) (slot : Slot) (space : SpaceHandle) (id : EnvId)
    (env : Env) : Prop where
  /-- The parent runs. -/
  runs : now.cpu.Runs slot space
  /-- The child has come into its slot, and everybody else is as at the start. -/
  profile_eq : now.cpu.kernel.profile =
    Function.update start.cpu.kernel.profile id.slot env
  /-- The configuration never changes. -/
  config_eq : now.cpu.kernel.config = start.cpu.kernel.config
  /-- The child is named by an id of its own. -/
  other : id.isSelf = false
  /-- It has a slot of its own. -/
  ne : id.slot ≠ slot
  /-- It has the id that it is named by. -/
  named : env.id = id
  /-- It exists. -/
  live : env.isLive = true
  /-- It knows its parent. -/
  parent : env.parent = (start.cpu.kernel.envAt slot).id

namespace Tends

/-- The child's profile is the one that it is meant to have. -/
theorem profile_child (tends : Tends start now slot space id env) :
    now.cpu.kernel.profile id.slot = env := by
  -- It is the one that differs from the start.
  rw [tends.profile_eq, Function.update_self]

/-- All other profiles are those of the start. -/
theorem profile_other (tends : Tends start now slot space id env) {place : Slot}
    (elsewhere : place ≠ id.slot) :
    now.cpu.kernel.profile place = start.cpu.kernel.profile place := by
  -- Only the child's differs.
  rw [tends.profile_eq, Function.update_of_ne elsewhere]

/-- The parent finds the child by its id. -/
theorem found (tends : Tends start now slot space id env) :
    now.cpu.kernel.findOwned id = .ok id.slot := by
  -- The id of the child is that in its slot, and its parent is the one that runs.
  have here := tends.profile_child
  have same := tends.profile_other (Ne.symm tends.ne)
  refine Kernel.findOwned_child tends.runs.owns tends.other ?_ ?_ ?_
  · have status : (now.cpu.kernel.envAt id.slot).status = env.status :=
      (congrArg Env.status here :)
    rw [Env.isLive, status]
    exact tends.live
  · exact (congrArg Env.id here :).trans tends.named
  · have known : (now.cpu.kernel.envAt id.slot).parent = env.parent :=
      (congrArg Env.parent here :)
    have own : (now.cpu.kernel.envAt slot).id = (start.cpu.kernel.envAt slot).id :=
      (congrArg Env.id same :)
    rw [known, tends.parent, own]

/-- The child's space can be reached by its id. -/
theorem reaches (tends : Tends start now slot space id env) (held : env.space = some child) :
    now.cpu.kernel.Reaches id child :=
  ⟨id.slot, tends.found, (congrArg Env.space tends.profile_child :).trans held⟩

/-- What changes the child alone changes its profile. -/
theorem alters (tends : Tends start now slot space id env) {changed : Env}
    (alters : Alters now next slot space id.slot changed) (named : changed.id = env.id)
    (live : changed.isLive = true) (parent : changed.parent = env.parent) :
    Tends start next slot space id changed :=
  { tends with
    runs := alters.runs
    profile_eq := by rw [alters.profile_eq, tends.profile_eq, Function.update_idem]
    config_eq := alters.config_eq.trans tends.config_eq
    named := named.trans tends.named
    live := live
    parent := parent.trans tends.parent }

/-- What changes no profile leaves the child as it is. -/
theorem stays (tends : Tends start now slot space id env) (stays : Stays now next slot space) :
    Tends start next slot space id env :=
  { tends with
    runs := stays.runs
    profile_eq := stays.profile_eq.trans tends.profile_eq
    config_eq := stays.config_eq.trans tends.config_eq }

end Tends

variable (handlers : Handlers η) (attempts : Nat)

/-- A call to make a child that the kernel refuses changes nothing that matters. -/
theorem ends_forkEnv_of_error (runs : before.cpu.Runs slot space) {error : SysError}
    {acted : Kernel} (forked : (before.cpu.calling slot .fork {}).fork = (.error error, acted)) :
    ∃ failure after, Ends (reply handlers attempts) forkEnv before (.error failure) after ∧
      Stays before after slot space ∧
      before.cpu.kernel.memory.Intact after.cpu.kernel.memory := by
  have calling := before.cpu.profile_calling slot .fork {}
  have owns : (before.cpu.calling slot .fork {}).current = some slot := runs.owns
  have performed : (before.cpu.calling slot .fork {}).perform .fork {} =
      Kernel.answer (before.cpu.calling slot .fork {}).fork := rfl
  obtain ⟨memory, unchanged, intact⟩ := Kernel.unchanged_fork (by rw [forked] :
    (before.cpu.calling slot .fork {}).fork.1 = .error error)
  rw [forked] at performed unchanged
  obtain rfl : acted = { before.cpu.calling slot .fork {} with memory } := unchanged
  -- The answer is an error, and the library throws it.
  obtain ⟨machine, answered, proceeds⟩ :=
    runs.proceeds performed owns (congrFun calling slot) intact.active_eq
  have called : Ends (reply handlers attempts) (Program.call .fork {}) before _ _ :=
    ends_call_of_answer answered
  rw [SysError.ofWord?_encodeResult (fun _ done => by simp at done)] at called
  exact ⟨_, _, ends_bind_iff.mpr (.inr ⟨_, rfl, called⟩),
    ⟨proceeds.runs, proceeds.profile_eq.trans calling, rfl, proceeds.config_eq⟩,
    proceeds.memory_eq ▸ intact⟩

/-- A call to make a child that the kernel carries out leaves the caller with a newborn child. -/
theorem ends_forkEnv_of_ok (runs : before.cpu.Runs slot space) {value : Word} {acted : Kernel}
    (forked : (before.cpu.calling slot .fork {}).fork = (.ok value, acted)) :
    ∃ after child, Ends (reply handlers attempts) forkEnv before (.ok ⟨value⟩) after ∧
      before.cpu.kernel.memory.createSpace = (.ok child, after.cpu.kernel.memory) ∧
      (before.cpu.kernel.envAt (⟨value⟩ : EnvId).slot).isLive = false ∧
      Tends before after slot space ⟨value⟩
        (.newborn ⟨value⟩ (before.cpu.kernel.envAt slot).id child) := by
  have calling := before.cpu.profile_calling slot .fork {}
  have owns : (before.cpu.calling slot .fork {}).current = some slot := runs.owns
  have performed : (before.cpu.calling slot .fork {}).perform .fork {} =
      Kernel.answer (before.cpu.calling slot .fork {}).fork := rfl
  have small (other : Word) (done : Except.ok value = (.ok other : Except SysError Word)) :
      other.toNat < 2147483648 :=
    Kernel.fork_result_lt (by rw [forked]; exact done)
  rw [forked] at performed
  obtain ⟨child, created, current, config, other, dead, profile⟩ :=
    (runs.consistent_calling .fork {}).profile_fork owns forked
  rw [Kernel.isLive_of_profile calling] at dead
  rw [Kernel.id_of_profile calling, calling] at profile
  -- The caller is alive, so that it is not in the slot of the child.
  have apart : (⟨value⟩ : EnvId).slot ≠ slot := by
    intro same
    rw [same, Env.isLive_of_isRunnable runs.ready] at dead
    simp at dead
  have active := (Memory.createSpace_ok_spec created).2.2.2
  -- The answer is no error, so that the library reads it as the id of the child.
  obtain ⟨machine, answered, proceeds⟩ := runs.proceeds performed current
    (by rw [profile, Function.update_of_ne (Ne.symm apart)]) active
  have called : Ends (reply handlers attempts) (Program.call .fork {}) before _ _ :=
    ends_call_of_answer answered
  rw [SysError.ofWord?_encodeResult small] at called
  exact ⟨_, child, ends_bind_iff.mpr (.inl ⟨_, _, called, ends_pure.mpr ⟨rfl, rfl⟩⟩),
    created.trans (by rw [proceeds.memory_eq]), dead,
    { runs := proceeds.runs
      profile_eq := proceeds.profile_eq.trans profile
      config_eq := proceeds.config_eq.trans config
      other := other
      ne := apart
      named := rfl
      live := rfl
      parent := rfl }⟩

/-- A request for a child ends with a child that has an empty space, or it changes nothing. -/
theorem ends_forkEnv_of (runs : before.cpu.Runs slot space) :
    ∃ result after, Ends (reply handlers attempts) forkEnv before result after ∧
      match result with
      | .ok id => ∃ child,
          before.cpu.kernel.memory.createSpace = (.ok child, after.cpu.kernel.memory) ∧
          (before.cpu.kernel.envAt id.slot).isLive = false ∧
          Tends before after slot space id
            (.newborn id (before.cpu.kernel.envAt slot).id child)
      | .error _ => Stays before after slot space ∧
          before.cpu.kernel.memory.Intact after.cpu.kernel.memory := by
  -- The call makes an environment or refuses, and the library passes that on.
  rcases forked : (before.cpu.calling slot .fork {}).fork with ⟨error | value, acted⟩
  · obtain ⟨failure, after, ends, kept⟩ := ends_forkEnv_of_error handlers attempts runs forked
    exact ⟨.error failure, after, ends, kept⟩
  · obtain ⟨after, child, ends, made⟩ := ends_forkEnv_of_ok handlers attempts runs forked
    exact ⟨.ok ⟨value⟩, after, ends, child, made⟩

/-- An environment always learns its own record, as far as it may be read. -/
theorem ends_ownInfo_of (runs : before.cpu.Runs slot space) :
    ∃ info after, Ends (reply handlers attempts) ownInfo before (.ok info) after ∧
      Stays before after slot space ∧ after.cpu.kernel.memory = before.cpu.kernel.memory ∧
      info = (after.cpu.kernel.envAt slot).info := by
  have calling := before.cpu.profile_calling slot .currentEnv {}
  have owns : (before.cpu.calling slot .currentEnv {}).current = some slot := runs.owns
  have same := Kernel.id_of_profile calling slot
  have performed : (before.cpu.calling slot .currentEnv {}).perform .currentEnv {} =
      (.stay (SysError.encodeResult (.ok (before.cpu.kernel.envAt slot).id.raw)),
        before.cpu.calling slot .currentEnv {}) := by
    simp only [Kernel.perform, Kernel.answer, Kernel.owner, owns, Except.map, same]
  obtain ⟨machine, answered, proceeds⟩ := runs.proceeds performed owns (congrFun calling slot) rfl
  have called : Ends (reply handlers attempts) (Program.call .currentEnv {}) before _ _ :=
    ends_call_of_answer answered
  -- An id is no error, since it is a positive number.
  have positive := (runs.coupled.settled.envs.named slot
    (Env.isLive_of_isRunnable runs.ready)).2.2
  have fine : SysError.ofWord? (SysError.encodeResult
      (.ok (before.cpu.kernel.envAt slot).id.raw)) = none :=
    SysError.ofWord?_encodeResult (by rintro _ ⟨⟩; exact positive)
  rw [fine] at called
  have profile := proceeds.profile_eq.trans calling
  -- What is read is the record in the slot to which the id leads.
  have asked : Ends (reply handlers attempts)
      (ask (.envInfo (before.cpu.kernel.envAt slot).id.slot.val)) { before with cpu := machine }
      (.ok (machine.kernel.envInfo (before.cpu.kernel.envAt slot).id.slot.val))
      { before with cpu := machine } := ends_ask.mpr rfl
  refine ⟨_, _, ends_bind.mpr ⟨⟨(before.cpu.kernel.envAt slot).id.raw⟩, _,
    ends_bind.mpr ⟨_, _, called, ends_pure.mpr ⟨rfl, rfl⟩⟩, asked⟩,
    ⟨proceeds.runs, profile, rfl, proceeds.config_eq⟩, proceeds.memory_eq, ?_⟩
  have here : slotAt slot.val = slot := Fin.ext (Nat.mod_eq_of_lt slot.isLt)
  rw [runs.slot_id, Kernel.envInfo, here]

/-- A command that changes one environment, but neither its id nor its space, is carried out. -/
theorem ends_modifyEnv_of (runs : before.cpu.Runs slot space) {call : Syscall} {words : Arguments}
    {target : Slot} {change : Env → Env}
    (performed : (before.cpu.calling slot call words).perform call words =
      Kernel.answerUnit (.ok (), (before.cpu.calling slot call words).modifyEnv target change))
    (profile : ∀ env, (change env).profile = change env.profile)
    (named : ∀ env, (change env).id = env.id) (held : ∀ env, (change env).space = env.space)
    (ready : ∀ env, env.isRunnable = true → (change env).isRunnable = true) :
    ∃ after, Ends (reply handlers attempts) (command call words) before (.ok ()) after ∧
      Alters before after slot space target (change (before.cpu.kernel.profile target)) := by
  -- Profiles change in one slot, and there as the record does.
  obtain ⟨machine, answered, proceeds⟩ := runs.proceeds_modifyEnv performed named held ready
  have ended : Ends (reply handlers attempts) (command call words) before
      ((Except.ok () : Except SysError Unit).mapError .kernel) _ := ends_command_of_answer answered
  refine ⟨_, ended, proceeds.runs, proceeds.profile_eq.trans (funext fun place => ?_),
    proceeds.memory_eq, proceeds.config_eq⟩
  rw [Kernel.profile_modifyEnv, profile, ← Kernel.profile, before.cpu.profile_calling,
    Function.update_apply]

/-- A fault entry point is set if the caller may change the environment. -/
theorem ends_setFaultEntry_of (runs : before.cpu.Runs slot space) {target : Slot}
    (found : before.cpu.kernel.findOwned id = .ok target) (entry : Address) :
    ∃ after, Ends (reply handlers attempts) (setFaultEntry id entry) before (.ok ()) after ∧
      Alters before after slot space target { before.cpu.kernel.profile target with
        faultEntry := if entry = 0 then none else some entry } := by
  have performed : (before.cpu.calling slot .setFaultEntry ⟨id.raw, entry, 0, 0, 0⟩).perform
      .setFaultEntry ⟨id.raw, entry, 0, 0, 0⟩ = Kernel.answerUnit (.ok (),
        (before.cpu.calling slot .setFaultEntry ⟨id.raw, entry, 0, 0, 0⟩).modifyEnv target
          ({ · with faultEntry := if entry = 0 then none else some entry })) := by
    -- Saving the registers changes nothing about who may be changed.
    have same := (before.cpu.findOwned_calling slot .setFaultEntry
      ⟨id.raw, entry, 0, 0, 0⟩ id).trans found
    simp only [Kernel.perform, Kernel.setFaultEntry, same]
  exact ends_modifyEnv_of handlers attempts runs performed (fun _ => rfl) (fun _ => rfl)
    (fun _ => rfl) (fun _ ready => ready)

/-- An environment is started if the caller may change it. -/
theorem ends_setStatus_of (runs : before.cpu.Runs slot space) {target : Slot}
    (found : before.cpu.kernel.findOwned id = .ok target) :
    ∃ after, Ends (reply handlers attempts) (setStatus id .runnable) before (.ok ()) after ∧
      Alters before after slot space target
        { before.cpu.kernel.profile target with status := .runnable } := by
  have performed : (before.cpu.calling slot .setStatus
      ⟨id.raw, Status.runnable.toWord, 0, 0, 0⟩).perform .setStatus
        ⟨id.raw, Status.runnable.toWord, 0, 0, 0⟩ = Kernel.answerUnit (.ok (),
          (before.cpu.calling slot .setStatus
            ⟨id.raw, Status.runnable.toWord, 0, 0, 0⟩).modifyEnv target
              ({ · with status := .runnable })) := by
    -- Saving the registers changes nothing about who may be changed.
    have same := (before.cpu.findOwned_calling slot .setStatus
      ⟨id.raw, Status.runnable.toWord, 0, 0, 0⟩ id).trans found
    have settable : Kernel.settableStatus Status.runnable.toWord = .ok .runnable := by decide
    simp only [Kernel.perform, Kernel.setStatus, same, settable]
  exact ends_modifyEnv_of handlers attempts runs performed (fun _ => rfl) (fun _ => rfl)
    (fun _ => rfl) (fun _ _ => rfl)

namespace Tends

variable (tends : Tends start now slot space id env)
include tends

/-- The child can be destroyed, and its space goes with it. -/
theorem ends_destroyEnv (held : env.space = some child) :
    ∃ next, Ends (reply handlers attempts) (destroyEnv id) now (.ok ()) next ∧
      next.cpu.Runs slot space ∧ next.cpu.kernel.config = start.cpu.kernel.config ∧
      next.cpu.kernel.profile =
        Function.update start.cpu.kernel.profile id.slot env.vacated ∧
      next.cpu.kernel.memory = (now.cpu.kernel.memory.destroySpace child).2 := by
  have calling := now.cpu.profile_calling slot .destroyEnv ⟨id.raw, 0, 0, 0, 0⟩
  have found := (now.cpu.findOwned_calling slot .destroyEnv ⟨id.raw, 0, 0, 0, 0⟩ id).trans
    tends.found
  have owns : (now.cpu.calling slot .destroyEnv ⟨id.raw, 0, 0, 0, 0⟩).current = some slot :=
    tends.runs.owns
  -- The child does not own the processor, so that its parent goes on.
  have elsewhere : (now.cpu.calling slot .destroyEnv ⟨id.raw, 0, 0, 0, 0⟩).current ≠
      some id.slot := fun same => tends.ne (Option.some.inj (same.symm.trans owns))
  have performed : (now.cpu.calling slot .destroyEnv ⟨id.raw, 0, 0, 0, 0⟩).perform .destroyEnv
      ⟨id.raw, 0, 0, 0, 0⟩ = (.stay (SysError.encodeResult (.ok 0)),
        (now.cpu.calling slot .destroyEnv ⟨id.raw, 0, 0, 0, 0⟩).freeEnv id.slot) := by
    simp only [Kernel.perform, Kernel.destroyCall, found, Kernel.destroyEnv_other owns tends.ne]
    rfl
  have had := (Kernel.space_of_profile calling id.slot).trans
    ((congrArg Env.space tends.profile_child :).trans held)
  have memory := Kernel.memory_freeEnv had
  have active := (tends.runs.consistent_calling _ _).active_freeEnv had
  rw [if_neg elsewhere] at memory active
  have freed := Kernel.profile_freeEnv
    (now.cpu.calling slot .destroyEnv ⟨id.raw, 0, 0, 0, 0⟩) id.slot
  rw [calling, tends.profile_child] at freed
  obtain ⟨machine, answered, proceeds⟩ := tends.runs.proceeds performed owns
    (by rw [freed, Function.update_of_ne (Ne.symm tends.ne)]) active
  have ended : Ends (reply handlers attempts) (destroyEnv id) now
      ((Except.ok () : Except SysError Unit).mapError .kernel) _ := ends_command_of_answer answered
  refine ⟨_, ended, proceeds.runs, proceeds.config_eq.trans tends.config_eq, ?_,
    proceeds.memory_eq.trans memory⟩
  rw [proceeds.profile_eq, freed, tends.profile_eq, Function.update_idem]

end Tends

end Program

end Exokernel
