import Exokernel.Proofs.Memory.Private
import Exokernel.Proofs.PageCalls
import Exokernel.Proofs.WriteConfinement

/-! What system calls do to the environments, the registers of their caller aside. -/

namespace Exokernel

/-- An environment without its registers and its count of runs, which every call of its changes. -/
def Env.profile (env : Env) : Env :=
  { env with frame := {}, runs := 0 }

namespace Kernel

variable {kernel next : Kernel} {slot : Slot} {id : EnvId} {handle : SpaceHandle}

/-- The profile of the environment in a slot. -/
def profile (kernel : Kernel) (slot : Slot) : Env :=
  (kernel.envAt slot).profile

/-- A change to one environment changes one profile. -/
theorem profile_modifyEnv (kernel : Kernel) (slot other : Slot) (change : Env → Env) :
    (kernel.modifyEnv slot change).profile other =
      if other = slot then (change (kernel.envAt slot)).profile else kernel.profile other := by
  -- The slot is the one that was changed, or another one.
  rw [profile, envAt_modifyEnv]
  split <;> rfl

/-- A change that no profile shows. -/
theorem profile_modifyEnv_of_eq (kernel : Kernel) (slot : Slot) {change : Env → Env}
    (kept : (change (kernel.envAt slot)).profile = (kernel.envAt slot).profile) :
    (kernel.modifyEnv slot change).profile = kernel.profile :=
  funext fun other => view_modifyEnv Env.profile kernel slot other kept

/-- To save registers changes no profile. -/
theorem profile_saved (kernel : Kernel) (slot : Slot) (frame : TrapFrame) :
    (kernel.saved slot frame).profile = kernel.profile :=
  kernel.profile_modifyEnv_of_eq slot rfl

/-- To set the caller's result changes no profile. -/
theorem profile_withResult (kernel : Kernel) (value : Word) :
    (kernel.withResult value).profile = kernel.profile := by
  -- Without an owner nothing is set, and a result is a register.
  unfold withResult
  split
  · rename_i owner owns
    exact kernel.profile_modifyEnv_of_eq owner rfl
  · rfl

/-- To count a dispatch changes no profile. -/
theorem profile_dispatched (kernel : Kernel) (slot : Slot) :
    (kernel.dispatched slot).profile = kernel.profile :=
  kernel.profile_modifyEnv_of_eq slot rfl

/-- An id names an environment, with its space, by the profile in its slot. -/
theorem named_of_profile (same : next.profile id.slot = kernel.profile id.slot) :
    (next.env? id).isSome = (kernel.env? id).isSome ∧ next.space? id = kernel.space? id := by
  have status : (next.envAt id.slot).status = (kernel.envAt id.slot).status :=
    (congrArg Env.status same :)
  have named : (next.envAt id.slot).id = (kernel.envAt id.slot).id := (congrArg Env.id same :)
  have held : (next.envAt id.slot).space = (kernel.envAt id.slot).space :=
    (congrArg Env.space same :)
  -- Only status, id and space are looked at.
  simp only [space?, env?, Env.isLive, status, named]
  by_cases found :
      ((kernel.envAt id.slot).status != .free && (kernel.envAt id.slot).id == id) = true
  · simp only [found, if_true, Option.isSome_some, Option.bind_some, held, and_self]
  · simp only [found, if_false, Option.isSome_none, Option.bind_none, and_self, Bool.false_eq_true]

section Profile

variable (same : next.profile = kernel.profile) (slot : Slot)
include same

/-- The profile says the id. -/
theorem id_of_profile : (next.envAt slot).id = (kernel.envAt slot).id :=
  (congrArg Env.id (congrFun same slot) :)

/-- It says the parent. -/
theorem parent_of_profile : (next.envAt slot).parent = (kernel.envAt slot).parent :=
  (congrArg Env.parent (congrFun same slot) :)

/-- It says the status. -/
theorem status_of_profile : (next.envAt slot).status = (kernel.envAt slot).status :=
  (congrArg Env.status (congrFun same slot) :)

/-- It says the space. -/
theorem space_of_profile : (next.envAt slot).space = (kernel.envAt slot).space :=
  (congrArg Env.space (congrFun same slot) :)

/-- It says what is in the mailbox. -/
theorem mailbox_of_profile : (next.envAt slot).mailbox = (kernel.envAt slot).mailbox :=
  (congrArg Env.mailbox (congrFun same slot) :)

/-- It says whether the environment exists. -/
theorem isLive_of_profile : (next.envAt slot).isLive = (kernel.envAt slot).isLive := by
  -- To exist is to have another status than that of a free slot.
  rw [Env.isLive, status_of_profile same slot, Env.isLive]

omit slot in
/-- The same ids name environments with the same spaces. -/
theorem space?_of_profile (id : EnvId) : next.space? id = kernel.space? id :=
  (named_of_profile (congrFun same id.slot)).2

omit slot in
/-- The same ids name environments. -/
theorem isSome_of_profile (id : EnvId) : (next.env? id).isSome = (kernel.env? id).isSome :=
  (named_of_profile (congrFun same id.slot)).1

omit slot in
/-- The same environments may be changed by the owner of the processor. -/
theorem findOwned_of_profile (current : next.current = kernel.current) (id : EnvId) :
    next.findOwned id = kernel.findOwned id := by
  -- The search looks at nothing but statuses, ids and parents.
  have live := isLive_of_profile same
  have named := id_of_profile same
  have parent := parent_of_profile same
  simp only [envAt] at live named parent
  simp only [findOwned, EnvTable.findOwned, EnvTable.find, current, live, named, parent]

end Profile

/-- The owner of the processor may change the environment with an id, which has a space. -/
def Reaches (kernel : Kernel) (id : EnvId) (handle : SpaceHandle) : Prop :=
  ∃ slot, kernel.findOwned id = .ok slot ∧ (kernel.envAt slot).space = some handle

/-- An id leads to the same space if profiles and owner are the same. -/
theorem Reaches.congr (reaches : kernel.Reaches id handle) (same : next.profile = kernel.profile)
    (current : next.current = kernel.current) : next.Reaches id handle := by
  -- The id leads to the same slot, and the slot has the same space.
  obtain ⟨slot, found, held⟩ := reaches
  exact ⟨slot, (findOwned_of_profile same current id).trans found,
    (space_of_profile same slot).trans held⟩

/-- The zero id leads to whoever has the processor. -/
theorem findOwned_self (owns : kernel.current = some slot) :
    kernel.findOwned .self = .ok slot := by
  -- The id is looked at before the table is.
  simp [findOwned, owns, EnvTable.findOwned, EnvTable.find, EnvId.self, EnvId.isSelf]

/-- The id of a child leads to its slot. -/
theorem findOwned_child (owns : kernel.current = some slot) (other : id.isSelf = false)
    (live : (kernel.envAt id.slot).isLive = true) (named : (kernel.envAt id.slot).id = id)
    (child : (kernel.envAt id.slot).parent = (kernel.envAt slot).id) :
    kernel.findOwned id = .ok id.slot := by
  -- A parent may name its children, and this one has its slot for its own.
  simp only [envAt] at live named child
  simp [findOwned, owns, EnvTable.findOwned, EnvTable.find, other, live, named, child]

/-- Entry of a page in the address space of an environment, if it maps one. -/
def entryOf (kernel : Kernel) (id : EnvId) (va : Address) : Option PageEntry :=
  (kernel.space? id).bind fun space => kernel.memory.entryAt? space va

/-- All addresses of a page have the same entry. -/
theorem entryOf_congr {va place : Address} (same : pageNumber va = pageNumber place) :
    kernel.entryOf id va = kernel.entryOf id place := by
  -- Spaces map whole pages.
  simp only [entryOf, Memory.entryAt?_congr same]

/-- An address space leads back to the one environment that has it. -/
theorem Consistent.space?_injective (consistent : kernel.Consistent) {other : EnvId}
    (named : kernel.space? id = some handle) (again : kernel.space? other = some handle) :
    other = id := by
  obtain ⟨first, found, held⟩ := Option.bind_eq_some_iff.mp named
  obtain ⟨second, foundAgain, heldAgain⟩ := Option.bind_eq_some_iff.mp again
  obtain ⟨rfl, -, same⟩ := env?_eq_some.mp found
  obtain ⟨rfl, -, sameAgain⟩ := env?_eq_some.mp foundAgain
  -- Both environments are in the slot that holds the space.
  rw [← same, ← sameAgain, consistent.distinct _ _ _ held heldAgain]

/-- What changes on one page of a space changes on one page of the environment that has it. -/
theorem Consistent.entryOf_of_installs (consistent : kernel.Consistent)
    (same : next.profile = kernel.profile) (named : kernel.space? id = some handle)
    {place : Address} {content : Option PageEntry}
    (installs : Memory.Installs kernel.memory next.memory handle place content) :
    (∀ va, pageNumber va = pageNumber place → next.entryOf id va = content) ∧
      ∀ other va, other ≠ id ∨ pageNumber va ≠ pageNumber place →
        next.entryOf other va = kernel.entryOf other va := by
  simp only [entryOf, space?_of_profile same]
  refine ⟨fun va here => ?_, fun other va apart => ?_⟩
  · rw [named, Option.bind_some, installs.here, if_pos here]
  -- Another environment has another space, in which nothing has changed.
  · cases found : kernel.space? other with
    | none => rfl
    | some space =>
      refine installs.entryAt?_eq (apart.imp_left fun different => ?_)
      rintro rfl
      exact different (consistent.space?_injective named found)

section Paging

variable {words : Arguments}

/-- An acceptable request for a fresh page is carried out, as far as memory allows. -/
theorem allocPage_of_reaches (reaches : kernel.Reaches ⟨words.first⟩ handle)
    (aligned : isAligned words.second = true) (below : words.second < userTop)
    (allowed : (⟨words.third⟩ : PageFlags).isUserPermission = true) :
    kernel.allocPage (.ofArguments words) =
      ((kernel.memory.mapFresh handle words.second ⟨words.third⟩).1,
        { kernel with memory :=
            (kernel.memory.mapFresh handle words.second ⟨words.third⟩).2 }) := by
  obtain ⟨slot, found, held⟩ := reaches
  -- The request passes every check.
  have resolved : kernel.resolveAlloc (.ofArguments words) =
      .ok (handle, ⟨words.second, aligned, below⟩, ⟨words.third⟩) := by
    simp [resolveAlloc, AllocRequest.ofArguments, AllocRequest.check, checkPage,
      UserPage.ofAddress?, checkPermission, spaceOf, found, held, aligned, below, allowed, bind,
      Except.bind, pure, Except.pure]
  simp only [allocPage, resolved]

/-- An acceptable request to map a page again is carried out, as far as memory allows. -/
theorem mapPage_of_reaches {source : SpaceHandle} {entry : PageEntry}
    (reachesSource : kernel.Reaches ⟨words.first⟩ source)
    (reaches : kernel.Reaches ⟨words.third⟩ handle)
    (sourceAligned : isAligned words.second = true) (sourceBelow : words.second < userTop)
    (aligned : isAligned words.fourth = true) (below : words.fourth < userTop)
    (allowed : (⟨words.fifth⟩ : PageFlags).isUserPermission = true)
    (mapped : kernel.memory.entryAt? source words.second = some entry)
    (covered : (⟨words.fifth⟩ : PageFlags).contains .writable = true →
      entry.flags.contains .writable = true) :
    kernel.mapPage (.ofArguments words) =
      ((kernel.memory.map handle words.fourth entry.frame ⟨words.fifth⟩).1.mapError
          SpaceError.toSysError,
        { kernel with
          memory := (kernel.memory.map handle words.fourth entry.frame ⟨words.fifth⟩).2 }) := by
  obtain ⟨slot, found, held⟩ := reachesSource
  obtain ⟨target, targetFound, targetHeld⟩ := reaches
  -- The request asks for no permission to write that the source page does not have.
  have granted : checkNoEscalation ⟨words.fifth⟩ entry.flags = .ok () := by
    unfold checkNoEscalation
    split
    · rename_i escalates
      simp only [Bool.and_eq_true, Bool.not_eq_true'] at escalates
      rw [covered escalates.1] at escalates
      simp at escalates
    · rfl
  have resolved : kernel.resolveMap (.ofArguments words) =
      .ok ⟨handle, words.fourth, entry.frame, ⟨words.fifth⟩⟩ := by
    simp [resolveMap, MapRequest.ofArguments, MapRequest.check, checkPage, UserPage.ofAddress?,
      checkPermission, spaceOf, shareable, found, held, targetFound, targetHeld, sourceAligned,
      sourceBelow, aligned, below, allowed, mapped, granted, bind, Except.bind, pure, Except.pure]
  simp only [mapPage, resolved, PlannedMapping.apply]

/-- An acceptable request to remove a mapping is carried out. -/
theorem unmapPage_of_reaches (reaches : kernel.Reaches ⟨words.first⟩ handle)
    (aligned : isAligned words.second = true) (below : words.second < userTop) :
    kernel.unmapPage (.ofArguments words) =
      ((kernel.memory.unmap handle words.second).1.mapError SpaceError.toSysError,
        { kernel with memory := (kernel.memory.unmap handle words.second).2 }) := by
  obtain ⟨slot, found, held⟩ := reaches
  -- The id and the address pass, so that the space does what it is asked.
  have resolved : kernel.resolveUnmap (.ofArguments words) =
      .ok (handle, ⟨words.second, aligned, below⟩) := by
    simp [resolveUnmap, UnmapRequest.ofArguments, checkPage, UserPage.ofAddress?, spaceOf, found,
      held, aligned, below, bind, Except.bind, pure, Except.pure]
  simp only [unmapPage, resolved]

end Paging

end Kernel

namespace Machine

variable {machine next : Machine} {slot : Slot} {space : SpaceHandle} {call : Syscall}
  {words : Arguments} {value : Word} {acted : Kernel}

/-- After a call of a running environment it runs again, and the kernel is as the call left it. -/
structure Proceeds (next : Machine) (slot : Slot) (space : SpaceHandle) (acted : Kernel) :
    Prop where
  /-- The environment runs. -/
  runs : next.Runs slot space
  /-- Memory is as the call left it. -/
  memory_eq : next.kernel.memory = acted.memory
  /-- Profiles are as the call left them. -/
  profile_eq : next.kernel.profile = acted.profile
  /-- The configuration never changes. -/
  config_eq : next.kernel.config = acted.config

/-- To save the registers of a call changes no profile. -/
theorem profile_calling (machine : Machine) (slot : Slot) (call : Syscall) (words : Arguments) :
    (machine.calling slot call words).profile = machine.kernel.profile :=
  machine.kernel.profile_saved slot _

/-- What the caller reaches it still reaches when the kernel carries out its call. -/
theorem reaches_calling {id : EnvId} {handle : SpaceHandle}
    (reaches : machine.kernel.Reaches id handle) (slot : Slot) (call : Syscall)
    (words : Arguments) : (machine.calling slot call words).Reaches id handle :=
  reaches.congr (machine.profile_calling slot call words) rfl

/-- The caller may change the same environments when the kernel carries out its call. -/
theorem findOwned_calling (machine : Machine) (slot : Slot) (call : Syscall) (words : Arguments)
    (id : EnvId) : (machine.calling slot call words).findOwned id = machine.kernel.findOwned id :=
  Kernel.findOwned_of_profile (machine.profile_calling slot call words) rfl id

namespace Runs

/-- A caller that is given the processor back, with its answer, proceeds. -/
theorem proceeds_of_answered (runs : machine.Runs slot space)
    (answered : machine.syscall call words = (.ok value, apply (.resume (acted.envAt slot).id
      ((acted.envAt slot).frame.withResult value), (acted.withResult value).dispatched slot)))
    (held : (acted.envAt slot).space = some space)
    (active : acted.memory.active = machine.kernel.memory.active) :
    ∃ next, machine.syscall call words = (.ok value, next) ∧ next.Proceeds slot space acted := by
  have coupled := runs.coupled.syscall call words
  rw [answered] at coupled
  -- The answer goes to a register, which no profile shows, and the same space is in use again.
  have profile : ((acted.withResult value).dispatched slot).profile = acted.profile :=
    (Kernel.profile_dispatched _ slot).trans (Kernel.profile_withResult acted value)
  have same : (acted.withResult value).memory = acted.memory ∧
      (acted.withResult value).config = acted.config := by
    unfold Kernel.withResult
    split <;> exact ⟨rfl, rfl⟩
  have spaceAfter : ((acted.withResult value).envAt slot).space = some space :=
    (Kernel.space_of_profile (Kernel.profile_withResult acted value) slot).trans held
  refine ⟨_, answered, ⟨coupled, rfl, ?_⟩, ?_, profile, same.2⟩
  · exact (Kernel.space_of_profile profile slot).trans held
  · show (acted.withResult value).memory.activate _ = _
    rw [same.1, spaceAfter, ← runs.active, ← active]
    rfl

/-- A call is answered if it leaves its caller ready to run, with its id and its space. -/
theorem proceeds_of (runs : machine.Runs slot space)
    (performed : (machine.calling slot call words).perform call words = (.stay value, acted))
    (owns : acted.current = some slot)
    (named : (acted.envAt slot).id = (machine.kernel.envAt slot).id)
    (held : (acted.envAt slot).space = some space)
    (ready : (acted.envAt slot).isRunnable = true)
    (active : acted.memory.active = machine.kernel.memory.active) :
    ∃ next, machine.syscall call words = (.ok value, next) ∧ next.Proceeds slot space acted :=
  runs.proceeds_of_answered (runs.answers performed owns ready named) held active

/-- A call that leaves its caller's profile alone is answered, and the caller goes on. -/
theorem proceeds (runs : machine.Runs slot space)
    (performed : (machine.calling slot call words).perform call words = (.stay value, acted))
    (owns : acted.current = some slot) (kept : acted.profile slot = machine.kernel.profile slot)
    (active : acted.memory.active = machine.kernel.memory.active) :
    ∃ next, machine.syscall call words = (.ok value, next) ∧ next.Proceeds slot space acted := by
  -- Id, space and status of the caller stand in its profile.
  have status : (acted.envAt slot).status = (machine.kernel.envAt slot).status :=
    (congrArg Env.status kept :)
  exact runs.proceeds_of performed owns (congrArg Env.id kept :)
    ((congrArg Env.space kept :).trans runs.held)
    (by rw [Env.isRunnable, status]; exact runs.ready) active

/-- A call that changes memory alone is answered, and the caller goes on. -/
theorem proceeds_memory (runs : machine.Runs slot space) {result : Except SysError Unit}
    {memory : Memory} (performed : (machine.calling slot call words).perform call words =
      Kernel.answerUnit (result, { machine.calling slot call words with memory }))
    (active : memory.active = machine.kernel.memory.active) :
    ∃ next, machine.syscall call words =
        (.ok (SysError.encodeResult (result.map fun () => 0)), next) ∧
      next.Proceeds slot space { machine.kernel with memory } := by
  -- Neither the registers that were saved nor the memory are part of a profile.
  have profile := machine.profile_calling slot call words
  obtain ⟨next, answered, proceeds⟩ := runs.proceeds performed runs.owns
    (congrFun profile slot) active
  exact ⟨next, answered, proceeds.runs, proceeds.memory_eq, proceeds.profile_eq.trans profile,
    proceeds.config_eq⟩

/-- A call that changes one environment alone is answered, and the caller goes on. -/
theorem proceeds_modifyEnv (runs : machine.Runs slot space) {target : Slot} {change : Env → Env}
    (performed : (machine.calling slot call words).perform call words =
      Kernel.answerUnit (.ok (), (machine.calling slot call words).modifyEnv target change))
    (named : ∀ env, (change env).id = env.id) (held : ∀ env, (change env).space = env.space)
    (ready : ∀ env, env.isRunnable = true → (change env).isRunnable = true) :
    ∃ next, machine.syscall call words = (.ok (SysError.encodeResult (.ok 0)), next) ∧
      next.Proceeds slot space ((machine.calling slot call words).modifyEnv target change) := by
  have before := machine.profile_calling slot call words
  -- The environment that is changed may be the caller itself.
  have owns : ((machine.calling slot call words).modifyEnv target change).current = some slot :=
    runs.owns
  refine runs.proceeds_of performed owns ?_ ?_ ?_ rfl <;> rw [Kernel.envAt_modifyEnv]
  · have same := Kernel.id_of_profile before slot
    split
    · rename_i here
      rw [named, ← here, same]
    · exact same
  · have same := (Kernel.space_of_profile before slot).trans runs.held
    split
    · rename_i here
      rw [held, ← here, same]
    · exact same
  · have still := runs.ready_calling call words
    split
    · rename_i here
      exact ready _ (here ▸ still)
    · exact still

/-- Whoever runs reaches its own space by the zero id. -/
theorem reaches_self (runs : machine.Runs slot space) : machine.kernel.Reaches .self space :=
  ⟨slot, Kernel.findOwned_self runs.owns, runs.held⟩

end Runs

end Machine

end Exokernel
