import Exokernel.Proofs.User.ForkOutcomes
import Exokernel.Proofs.User.Twins

/-! A fork leaves parent and child with the same pages, none of which can be written in place. -/

namespace Exokernel

namespace Kernel

/-- What a fork has made of an environment and its child, compared with the kernel before it. -/
structure ForkedInto (kernel next : Kernel) (parent child : EnvId) : Prop where
  /-- The child is another environment. -/
  ne : child ≠ parent
  /-- The child can run, knows its parent, and handles faults where that does. -/
  started : ∃ made maker, next.env? child = some made ∧ next.env? parent = some maker ∧
    made.status = .runnable ∧ made.parent = parent ∧ made.faultEntry = maker.faultEntry
  /-- The parent has its pages below the stack top, with the permissions of shared ones. -/
  kept : ∀ va < stackTop,
    next.entryOf parent va = (kernel.entryOf parent va).map PageEntry.demoted
  /-- The child has the same pages there. -/
  given : ∀ va < stackTop, next.entryOf child va = (kernel.entryOf parent va).map PageEntry.demoted
  /-- Above, the child has a zero-filled page of its own on which handlers run, and no other. -/
  own : ∃ frame, next.memory.pool.page frame = Page.zero ∧ next.memory.pool.refs frame = 1 ∧
    ∀ va, stackTop ≤ va → next.entryOf child va =
      if pageNumber va = pageNumber (exceptionStackTop - pageSize) then
        some { frame, flags := .readWrite }
      else none

variable {kernel earlier next : Kernel} {parent child : EnvId}

namespace ForkedInto

/-- What happened before the fork has no part in it, if it changed no page below the stack top. -/
theorem of_entries (forked : kernel.ForkedInto next parent child)
    (same : ∀ va < stackTop, kernel.entryOf parent va = earlier.entryOf parent va) :
    earlier.ForkedInto next parent child :=
  { forked with
    kept := fun va below => by rw [forked.kept va below, same va below]
    given := fun va below => by rw [forked.given va below, same va below] }

/-- Neither of the two may write to a page below the stack top. -/
theorem not_writable (forked : kernel.ForkedInto next parent child) {id : EnvId}
    (either : id = parent ∨ id = child) {va : Address} (below : va < stackTop) {entry : PageEntry}
    (mapped : next.entryOf id va = some entry) : entry.flags.contains .writable = false := by
  -- Both map what the parent mapped, with the permission of a shared page.
  have demoted : (kernel.entryOf parent va).map PageEntry.demoted = some entry := by
    rcases either with rfl | rfl
    · exact (forked.kept va below).symm.trans mapped
    · exact (forked.given va below).symm.trans mapped
  obtain ⟨old, -, rfl⟩ := Option.map_eq_some_iff.mp demoted
  exact PageFlags.not_writable_demoted _

end ForkedInto

end Kernel

/-- An entry point other than zero is handed on as it is. -/
theorem Env.faultEntry_started (env : Env) {faultEntry : Option Address}
    (nonzero : faultEntry ≠ some 0) : (env.started faultEntry).faultEntry = faultEntry := by
  -- Only zero would be taken for no entry point.
  cases faultEntry with
  | none => rfl
  | some entry =>
    have other : entry ≠ 0 := fun zero => nonzero (congrArg some zero)
    simp [started, other]

namespace Program

variable {η : Type} {handlers : Handlers η} {attempts : Nat}
  {start now before after : UserState η Machine} {slot : Slot} {space child : SpaceHandle}
  {id : EnvId} {env : Env} {onWrite : η}

/-- The pages that are shared are those below the stack top. -/
theorem pageNumber_mem_sharedPages {va : Address} :
    pageNumber va ∈ sharedPages ↔ va < stackTop := by
  -- The stack top is where a page begins.
  have top : stackTop.toNat = 4005552128 := rfl
  have first : (pageNumber stackTop).toNat = 977918 := by decide
  rw [mem_sharedPages, UInt32.lt_iff_toNat_lt, UInt32.lt_iff_toNat_lt, toNat_pageNumber, first, top]
  omega

/-- The child is found by its id, with the profile that it has. -/
theorem Tends.env?_child (tends : Tends start now slot space id env) :
    ∃ made, now.cpu.kernel.env? id = some made ∧ made.profile = env := by
  -- It exists under its id, as its profile says both.
  have profile := tends.profile_child
  have status : (now.cpu.kernel.envAt id.slot).status = env.status :=
    (congrArg Env.status profile :)
  refine ⟨now.cpu.kernel.envAt id.slot, Kernel.env?_eq_some.mpr ⟨rfl, ?_, ?_⟩, profile⟩
  · rw [Env.isLive, status]
    exact tends.live
  · exact (congrArg Env.id profile :).trans tends.named

/-- Where the pages of a complete child are. -/
theorem Complete.entries (complete : Complete before after slot space child id env) :
    ∃ frame, after.cpu.kernel.memory.pool.page frame = Page.zero ∧
      after.cpu.kernel.memory.pool.refs frame = 1 ∧
      (∀ va < stackTop, after.cpu.kernel.memory.entryAt? space va =
          (before.cpu.kernel.memory.entryAt? space va).map PageEntry.demoted ∧
        after.cpu.kernel.memory.entryAt? child va =
          (before.cpu.kernel.memory.entryAt? space va).map PageEntry.demoted) ∧
      ∀ va, stackTop ≤ va → after.cpu.kernel.memory.entryAt? child va =
        if pageNumber va = pageNumber (exceptionStackTop - pageSize) then
          some { frame, flags := .readWrite }
        else none := by
  -- The page for handlers lies above the stack top, and so is none of the shared ones.
  obtain ⟨frame, zero, single, copies⟩ := complete.furnishes.copies
  refine ⟨frame, zero, single, fun va below => ⟨?_, ?_⟩, fun va above => ?_⟩
  · rw [complete.furnishes.entries, if_pos (pageNumber_mem_sharedPages.mpr below)]
  · have other := Memory.pageNumber_ne_of_above below
      (by decide : stackTop ≤ exceptionStackTop - pageSize)
    rw [copies, if_neg other, if_pos (pageNumber_mem_sharedPages.mpr below)]
  · have outside : pageNumber va ∉ sharedPages := fun listed =>
      absurd (pageNumber_mem_sharedPages.mp listed) (UInt32.not_lt.mpr above)
    rw [copies, if_neg outside]

/-- A child that has what it needs, and was started, is what a fork is to make. -/
theorem Complete.forkedInto (runs : before.cpu.Runs slot space)
    (nonzero : (before.cpu.kernel.envAt slot).faultEntry ≠ some 0)
    (complete : Complete before after slot space child id
      ((Env.newborn id (before.cpu.kernel.envAt slot).id child).started
        (before.cpu.kernel.envAt slot).faultEntry)) :
    before.cpu.kernel.ForkedInto after.cpu.kernel (before.cpu.kernel.envAt slot).id id := by
  obtain ⟨made, found, profile⟩ := complete.env?_child
  obtain ⟨frame, zero, single, both, above⟩ := complete.entries
  have same := complete.profile_other (Ne.symm complete.ne)
  have id_eq : (after.cpu.kernel.envAt slot).id = (before.cpu.kernel.envAt slot).id :=
    (congrArg Env.id same :)
  have faultEntry : made.faultEntry = (after.cpu.kernel.envAt slot).faultEntry :=
    ((congrArg Env.faultEntry profile :).trans (Env.faultEntry_started _ nonzero)).trans
      (congrArg Env.faultEntry same :).symm
  -- Both ids lead to the spaces that were filled.
  have named := runs.space?_eq
  have parent : after.cpu.kernel.space? (before.cpu.kernel.envAt slot).id = some space :=
    id_eq ▸ complete.runs.space?_eq
  have offspring : after.cpu.kernel.space? id = some child := by
    rw [Kernel.space?, found, Option.bind_some]
    exact (congrArg Env.space profile :)
  exact
    { ne := fun same => complete.ne (same ▸ runs.slot_id)
      started := ⟨made, _, found, id_eq ▸ complete.runs.env?_eq, (congrArg Env.status profile :),
        (congrArg Env.parent profile :), faultEntry⟩
      kept := fun va below => by
        simp only [Kernel.entryOf, parent, named, Option.bind_some, both va below]
      given := fun va below => by
        simp only [Kernel.entryOf, offspring, named, Option.bind_some, both va below]
      own := ⟨frame, zero, single, fun va higher => by
        rw [Kernel.entryOf, offspring, Option.bind_some, above va higher]⟩ }

end Program

namespace Machine

variable {η : Type}

/--
When a fork returns to the parent, the child has the same pages below the stack top, and apart from
them only a page on which handlers run. Neither of the two may write to the pages that they share.
-/
theorem forkedInto_after (config : Config) (past : List MachineEvent) (me child : EnvId)
    (library : LibraryState η) (handlers : Handlers η) (onWrite : η) (attempts : Nat)
    (last : UserState η Machine) (running : (after config past).current = some me)
    (returned : Program.execute handlers attempts (Program.fork onWrite)
      ⟨library, after config past⟩ = some (.ok (.parentOf child), last)) :
    (after config past).kernel.ForkedInto last.cpu.kernel me child ∧
      ∀ id, id = me ∨ id = child → ∀ va < stackTop, ∀ entry,
        last.cpu.kernel.entryOf id va = some entry → entry.flags.contains .writable = false := by
  have permitted := permitted_after config past
  have nonzero := entriesNonzero_after config past
  have coupled := coupled_after config past
  generalize after config past = machine at *
  obtain ⟨slot, space, runs, rfl⟩ := coupled.runs_of_running running
  have begun : (⟨library, machine⟩ : UserState η Machine).cpu.Runs slot space := runs
  have ends : Program.Ends (Program.reply handlers attempts) (Program.fork onWrite)
    ⟨library, machine⟩ (.ok (.parentOf child)) last := returned
  obtain ⟨⟨⟩, before, registering, -⟩ := Program.ends_bind.mp ends
  have registers := Program.ends_registerHandler_of begun permitted registering
  obtain ⟨_, complete⟩ :=
    Program.ends_fork_of registering registers.runs registers.permitted ends
  -- Registering the handler has changed no page that is shared.
  have forked := complete.forkedInto registers.runs (registers.faultEntry_ne nonzero)
  rw [registers.id_eq] at forked
  have same := registers.entryOf_eq begun
  have result := forked.of_entries same
  exact ⟨result, fun id either va below entry => result.not_writable either below⟩

/-- A fork at the start gives its caller a child, and the two share their text and their stack. -/
theorem forkedInto_text : ∃ last,
    Program.execute FaultPolicy.handlers 1 (Program.fork FaultPolicy.copyOnWrite)
      ⟨{}, after { frames := 32 } startedTwo⟩ = some (.ok (.parentOf ⟨4098⟩), last) ∧
    (after { frames := 32 } startedTwo).kernel.ForkedInto last.cpu.kernel ⟨4097⟩ ⟨4098⟩ := by
  -- The run is evaluated for its result, and its last state is left to the theorem.
  have running : (after { frames := 32 } startedTwo).current = some ⟨4097⟩ := by decide +kernel
  have ran : (Program.execute FaultPolicy.handlers 1 (Program.fork FaultPolicy.copyOnWrite)
      ⟨{}, after { frames := 32 } startedTwo⟩).map Prod.fst = some (.ok (.parentOf ⟨4098⟩)) := by
    decide +kernel
  obtain ⟨⟨_, last⟩, returned, rfl⟩ := Option.map_eq_some_iff.mp ran
  exact ⟨last, returned, (forkedInto_after _ _ _ _ _ _ _ _ _ running returned).1⟩

end Machine

end Exokernel
