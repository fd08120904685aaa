import Exokernel.Proofs.Reachable
import Exokernel.Proofs.User.PageSharing

/-! A fork ends with a child that has all it needs, or with no child. -/

namespace Exokernel

/-- A child as it is started: it handles faults where its parent does. -/
def Env.started (env : Env) (faultEntry : Option Address) : Env :=
  -- The entry point goes through a register, where zero stands for none.
  { env with
    status := .runnable
    faultEntry := if faultEntry.getD 0 = 0 then none else some (faultEntry.getD 0) }

namespace Kernel

variable {kernel next : Kernel} {slot : Slot} {env : Env}

/-- A slot that holds no environment may hold another one that does not exist. -/
theorem env?_of_vacant (same : next.profile = Function.update kernel.profile slot env)
    (dead : (kernel.envAt slot).isLive = false) (gone : env.isLive = false) (id : EnvId) :
    (next.env? id).isSome = (kernel.env? id).isSome ∧ next.space? id = kernel.space? id := by
  -- In this slot no id names anybody, before or after.
  by_cases here : id.slot = slot
  · have vacant : (next.envAt id.slot).isLive = false := by
      have profile : next.profile id.slot = env := by rw [same, here, Function.update_self]
      have status : (next.envAt id.slot).status = env.status := (congrArg Env.status profile :)
      rw [Env.isLive, status]
      exact gone
    rw [← here] at dead
    simp [space?, env?, vacant, dead]
  · exact named_of_profile (by rw [same, Function.update_of_ne here])

end Kernel

namespace Program

variable {η : Type} {handlers : Handlers η} {attempts : Nat}
  {start now next before after : UserState η Machine} {slot : Slot} {space child : SpaceHandle}
  {id : EnvId} {env : Env} {onWrite : η}

/-- A child that has what it needs is started, which never fails. -/
theorem Complete.starts (complete : Complete start now slot space child id env)
    {result : Except UserError Unit}
    (ends : Ends (reply handlers attempts) (do
      setFaultEntry id (← ownInfo).faultEntry
      setStatus id .runnable) now result next) :
    result = .ok () ∧ Complete start next slot space child id
      (env.started (start.cpu.kernel.envAt slot).faultEntry) := by
  obtain ⟨info, known, asking, stays, asked, rfl⟩ :=
    ends_ownInfo_of handlers attempts complete.runs
  have first := complete.toTends.stays stays
  obtain ⟨registered, registering, registers⟩ :=
    ends_setFaultEntry_of handlers attempts first.runs first.found
      (known.cpu.kernel.envAt slot).info.faultEntry
  rw [first.profile_child] at registers
  have second := first.alters registers rfl first.live rfl
  obtain ⟨last, starting, starts⟩ :=
    ends_setStatus_of handlers attempts second.runs second.found
  rw [second.profile_child] at starts
  have third := second.alters starts rfl rfl rfl
  rw [asking.bind_iff, registering.bind_iff] at ends
  obtain ⟨rfl, rfl⟩ := ends.unique starting
  -- The parent has the entry point that it had at the start.
  have same : (known.cpu.kernel.envAt slot).faultEntry =
      (start.cpu.kernel.envAt slot).faultEntry :=
    (congrArg Env.faultEntry (first.profile_other (Ne.symm complete.ne)) :)
  rw [show (known.cpu.kernel.envAt slot).info.faultEntry = _ from congrArg (·.getD 0) same]
    at third
  refine ⟨rfl, ⟨third, complete.held, ?_⟩⟩
  rw [starts.memory_eq, registers.memory_eq, asked]
  exact complete.furnishes

/-- A child is completed and started, or memory runs out on the way. -/
theorem Spawning.prepareChild (begun : start.cpu.Coupled)
    (spawning : Spawning start now slot space child id env []) {result : Except UserError Unit}
    (ends : Ends (reply handlers attempts) (prepareChild id) now result next) :
    Outcome (fun () => Complete start next slot space child id
        (env.started (start.cpu.kernel.envAt slot).faultEntry))
      (Expendable start next slot space child id env) result := by
  -- Only sharing can fail, and then the child is not started.
  rcases ends_bind_iff.mp ends with ⟨⟨⟩, shared, sharing, rest⟩ | ⟨failure, rfl, sharing⟩
  · have complete : Complete start shared slot space child id env :=
      spawning.shareSpace begun sharing
    obtain ⟨rfl, started⟩ := complete.starts rest
    exact started
  · exact spawning.shareSpace begun sharing

/-- All that a failure has left is that its caller cannot write to some pages any more. -/
structure Aborts (before after : UserState η Machine) (space : SpaceHandle) : Prop where
  /-- The same environments exist. -/
  isSome_eq : ∀ id, (after.cpu.kernel.env? id).isSome = (before.cpu.kernel.env? id).isSome
  /-- They have the same spaces. -/
  space?_eq : ∀ id, after.cpu.kernel.space? id = before.cpu.kernel.space? id
  /-- Memory is as it was, but for the pages that were to be shared. -/
  recovers : before.cpu.kernel.memory.Recovers after.cpu.kernel.memory space

/-- A child that is expendable is destroyed, and nothing is left of it. -/
theorem Expendable.destroyed (expendable : Expendable before now slot space child id env)
    (begun : before.cpu.Coupled) (dead : (before.cpu.kernel.envAt id.slot).isLive = false)
    {result : Except UserError Unit}
    (ends : Ends (reply handlers attempts) (destroyEnv id) now result after) :
    Aborts before after space := by
  -- The request is granted, so that it ended in this way and no other.
  obtain ⟨last, destroying, runs, config, profile, memory⟩ :=
    expendable.ends_destroyEnv handlers attempts expendable.held
  obtain ⟨-, rfl⟩ := ends.unique destroying
  obtain ⟨pages, lends⟩ := expendable.lends
  have sound := runs.coupled.settled.memory
  rw [memory, config] at sound
  have names (id : EnvId) := Kernel.env?_of_vacant profile dead rfl id
  exact ⟨fun id => (names id).1, fun id => (names id).2,
    memory ▸ lends.recovers begun.settled.memory sound⟩

/-- A failure is passed on once the child has been destroyed, whether or not that failed. -/
theorem ends_rescue {failure : UserError} {result : Except UserError Unit}
    (ends : Ends (reply handlers attempts) (do
      tryCatch (destroyEnv id) fun _ => return ()
      throw failure) now result after) :
    result = .error failure ∧
      ∃ attempt, Ends (reply handlers attempts) (destroyEnv id) now attempt after := by
  rcases ends_bind_iff.mp ends with ⟨⟨⟩, middle, tried, thrown⟩ | ⟨cause, rfl, tried⟩
  · obtain ⟨rfl, rfl⟩ := ends_throw.mp thrown
    rcases ends_tryCatch_iff.mp tried with ⟨⟨⟩, -, done⟩ | ⟨cause, last, failed, passed⟩
    · exact ⟨rfl, _, done⟩
    · obtain ⟨-, rfl⟩ := ends_pure.mp passed
      exact ⟨rfl, _, failed⟩
  · -- Destroying the child is tried, and a failure of it is not passed on.
    rcases ends_tryCatch_iff.mp tried with ⟨_, impossible, -⟩ | ⟨_, _, -, passed⟩
    · simp at impossible
    · simp [ends_pure] at passed

/-- An environment has a handler, for which it may have got a page and an entry point. -/
structure Registers (start before : UserState η Machine) (slot : Slot) (space : SpaceHandle) :
    Prop where
  /-- The environment runs. -/
  runs : before.cpu.Runs slot space
  /-- All permissions are ones that user code may ask for. -/
  permitted : before.cpu.kernel.memory.Permitted
  /-- It is the same environment. -/
  id_eq : (before.cpu.kernel.envAt slot).id = (start.cpu.kernel.envAt slot).id
  /-- Its entry point is the one it had, or that of the library. -/
  faultEntry : (before.cpu.kernel.envAt slot).faultEntry =
      (start.cpu.kernel.envAt slot).faultEntry ∨
    (before.cpu.kernel.envAt slot).faultEntry = some faultEntryPoint
  /-- Below the stack top it maps what it mapped. -/
  entries : ∀ va < stackTop, before.cpu.kernel.memory.entryAt? space va =
    start.cpu.kernel.memory.entryAt? space va

/-- Registering a handler sets no entry point to zero. -/
theorem Registers.faultEntry_ne (registers : Registers start before slot space)
    (nonzero : start.cpu.kernel.EntriesNonzero) :
    (before.cpu.kernel.envAt slot).faultEntry ≠ some 0 := by
  -- It is the old one or the library's, which is a fixed address.
  rcases registers.faultEntry with kept | made
  · rw [kept]
    exact nonzero slot
  · rw [made]
    decide

/-- The environment itself has the pages below the stack top that it had. -/
theorem Registers.entryOf_eq (registers : Registers start before slot space)
    (runs : start.cpu.Runs slot space) (va : Address) (below : va < stackTop) :
    before.cpu.kernel.entryOf (start.cpu.kernel.envAt slot).id va =
      start.cpu.kernel.entryOf (start.cpu.kernel.envAt slot).id va := by
  -- The space is the same, and registering has touched no page below the stack top.
  have named := registers.runs.space?_eq
  rw [registers.id_eq] at named
  rw [Kernel.entryOf, Kernel.entryOf, named, runs.space?_eq, Option.bind_some, Option.bind_some,
    registers.entries va below]

/-- Registering a handler that was not refused changes nothing below the stack top. -/
theorem ends_registerHandler_of (runs : start.cpu.Runs slot space)
    (permitted : start.cpu.kernel.memory.Permitted)
    (ends : Ends (reply handlers attempts) (registerHandler onWrite) start (.ok ()) before) :
    Registers start before slot space := by
  have allowed : PageFlags.readWrite.isUserPermission = true := by decide
  obtain ⟨known, looked, asking, rest⟩ := ends_bind.mp ends
  obtain ⟨-, rfl⟩ := ends_asked rfl asking
  dsimp only at rest
  split at rest
  · -- The first handler needs a page to run on, which lies above the stack top.
    obtain ⟨⟨⟩, made, allocating, rest⟩ := ends_bind.mp rest
    obtain ⟨⟨⟩, entered, registering, setting⟩ := ends_bind.mp rest
    obtain ⟨-, rfl⟩ := ends_asked rfl setting
    obtain ⟨_, taking, stays, memory⟩ := ends_allocPage_of handlers attempts runs
      runs.reaches_self (by decide : isAligned (exceptionStackTop - pageSize) = true)
      (by decide) allowed
    obtain ⟨granted, rfl⟩ := allocating.unique taking
    rcases placed : start.cpu.kernel.memory.mapFresh space (exceptionStackTop - pageSize)
      .readWrite with ⟨outcome, next⟩
    rw [placed] at granted memory
    obtain rfl : outcome = .ok () := by
      cases outcome with
      | error error => simp [Except.mapError] at granted
      | ok => rfl
    obtain ⟨frame, -, installs⟩ := Memory.installs_mapFresh placed
    -- Whoever runs may set its own entry point.
    obtain ⟨_, setting, alters⟩ := ends_setFaultEntry_of handlers attempts stays.runs
      (Kernel.findOwned_self stays.runs.owns) faultEntryPoint
    obtain ⟨-, rfl⟩ := registering.unique setting
    have profile := (congrFun alters.profile_eq slot).trans (Function.update_self ..)
    exact
      { runs := alters.runs
        permitted := by
          rw [alters.memory_eq, memory]
          exact installs.permitted_of_allowed permitted allowed
        id_eq := (congrArg Env.id profile :).trans (Kernel.id_of_profile stays.profile_eq slot)
        faultEntry := .inr (congrArg Env.faultEntry profile :)
        entries := fun va below => by
          rw [alters.memory_eq, memory]
          exact installs.entryAt?_eq (.inr (Memory.pageNumber_ne_of_above below (by decide))) }
  · -- A later handler takes the place of the one before in the library only.
    obtain ⟨-, rfl⟩ := ends_asked rfl rest
    exact ⟨runs, permitted, rfl, .inl rfl, fun _ _ => rfl⟩

/-- Who a fork returns to: a parent that has a child. -/
def Branches (before after : UserState η Machine) (slot : Slot) (space : SpaceHandle) :
    ForkSide → Prop
  -- The child's side returns in the child, and not in this run.
  | .parentOf id => ∃ child, Complete before after slot space child id
      ((Env.newborn id (before.cpu.kernel.envAt slot).id child).started
        (before.cpu.kernel.envAt slot).faultEntry)
  | .child => False

/-- Once a handler is registered, a fork gives its caller a child or has no effect. -/
theorem ends_fork_of {result : Except UserError ForkSide}
    (registered : Ends (reply handlers attempts) (registerHandler onWrite) start (.ok ()) before)
    (runs : before.cpu.Runs slot space) (permitted : before.cpu.kernel.memory.Permitted)
    (ends : Ends (reply handlers attempts) (fork onWrite) start result after) :
    Outcome (Branches before after slot space) (Aborts before after space) result := by
  obtain ⟨answer, forked, forking, outcome⟩ := ends_forkEnv_of handlers attempts runs
  unfold fork at ends
  rw [registered.bind_iff] at ends
  cases answer with
  -- Without a child there is nothing to undo.
  | error failure =>
    obtain ⟨rfl, rfl⟩ := forking.bind_error_iff.mp ends
    obtain ⟨stays, intact⟩ := outcome
    exact ⟨Kernel.isSome_of_profile stays.profile_eq, Kernel.space?_of_profile stays.profile_eq,
      intact.recovers space⟩
  | ok id =>
    obtain ⟨child, created, dead, tends⟩ := outcome
    rw [forking.bind_iff, if_neg (by simp [tends.other])] at ends
    have exists_ : (before.cpu.kernel.memory.table? space).isSome = true := by
      obtain ⟨handle, held, found⟩ := runs.coupled.settled.owns slot
        (Env.isLive_of_isRunnable runs.ready)
      rw [runs.held, Option.some.injEq] at held
      exact held ▸ found
    -- The child starts with nothing shared.
    have spawning : Spawning before forked slot space child id
        (.newborn id (before.cpu.kernel.envAt slot).id child) [] :=
      { toTends := tends
        held := rfl
        permitted := fun handle va entry found => permitted handle va entry
          ((Memory.entryAt?_of_createSpace created handle va).symm.trans found)
        duplicates := .created created runs.coupled.settled.memory exists_ }
    -- A child that cannot be completed is destroyed, and then the failure is passed on.
    rcases ends_bind_iff.mp ends with
      ⟨⟨⟩, prepared, caught, returned⟩ | ⟨failure, rfl, caught⟩
    · obtain ⟨rfl, rfl⟩ := ends_pure.mp returned
      rcases ends_tryCatch_iff.mp caught with
        ⟨⟨⟩, -, preparing⟩ | ⟨cause, middle, -, rescued⟩
      · exact ⟨child, spawning.prepareChild runs.coupled preparing⟩
      · have impossible := (ends_rescue rescued).1
        simp at impossible
    · rcases ends_tryCatch_iff.mp caught with ⟨_, impossible, -⟩ | ⟨cause, middle, failed, rescued⟩
      · simp at impossible
      · have expendable : Expendable before middle slot space child id _ :=
          spawning.prepareChild runs.coupled failed
        obtain ⟨-, attempt, destroying⟩ := ends_rescue rescued
        exact expendable.destroyed runs.coupled dead destroying

end Program

end Exokernel
