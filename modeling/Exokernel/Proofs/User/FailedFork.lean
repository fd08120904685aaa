import Exokernel.Proofs.User.ForkOutcomes
import Exokernel.Proofs.User.Twins

/-! A fork that fails gives back all that it took, however far it came. -/

namespace Exokernel

namespace Kernel

/-- What is left of a fork that failed: some pages of its caller have become copy-on-write. -/
structure ForkUndone (kernel next : Kernel) (me : EnvId) : Prop where
  /-- The same environments exist. -/
  isSome_eq : ∀ id, (next.env? id).isSome = (kernel.env? id).isSome
  /-- The same frames are free. -/
  mem_free_iff : ∀ frame, frame ∈ next.memory.pool.free ↔ frame ∈ kernel.memory.pool.free
  /-- Every frame is referenced as often as it was. -/
  refs_eq : ∀ frame, next.memory.pool.refs frame = kernel.memory.pool.refs frame
  /-- Frames in use have the bytes that they had. -/
  page_eq : ∀ frame, 0 < kernel.memory.pool.refs frame →
    next.memory.pool.page frame = kernel.memory.pool.page frame
  /-- Every other environment has the mappings that it had. -/
  others : ∀ id, id ≠ me → ∀ va, next.entryOf id va = kernel.entryOf id va
  /-- A page of the caller is as it was, or copy-on-write in place of writable. -/
  own : ∀ va, next.entryOf me va = kernel.entryOf me va ∨ ∃ old,
    kernel.entryOf me va = some old ∧ old.flags.contains .writable = true ∧
      next.entryOf me va = some { old with flags := old.flags.without .writable ||| .copyOnWrite }

end Kernel

namespace Program

variable {η : Type} {before after : UserState η Machine} {slot : Slot} {space : SpaceHandle}

/-- What a fork that failed has changed of memory it has changed for its caller alone. -/
theorem Aborts.forkUndone (aborts : Aborts before after space)
    (runs : before.cpu.Runs slot space) : before.cpu.kernel.ForkUndone after.cpu.kernel
      (before.cpu.kernel.envAt slot).id := by
  have consistent := runs.coupled.settled.toConsistent
  have named := runs.space?_eq
  refine
    { isSome_eq := aborts.isSome_eq
      mem_free_iff := aborts.recovers.mem_free_iff
      refs_eq := aborts.recovers.refs_eq
      page_eq := aborts.recovers.page_eq
      others := fun id other va => ?_
      own := fun va => ?_ }
  · rw [Kernel.entryOf, Kernel.entryOf, aborts.space?_eq]
    cases found : before.cpu.kernel.space? id with
    | none => rfl
    | some handle =>
      -- Another environment has another space.
      have apart : handle ≠ space := by
        rintro rfl
        exact other (consistent.space?_injective named found)
      rw [Option.bind_some, Option.bind_some, Memory.entryAt?, aborts.recovers.others handle apart,
        Memory.entryAt?]
  · simp only [Kernel.entryOf, aborts.space?_eq, named, Option.bind_some]
    rcases aborts.recovers.entries va with same | shared
    · exact .inl same
    · rw [shared]
      cases mapped : before.cpu.kernel.memory.entryAt? space va with
      | none => exact .inl rfl
      | some old =>
        -- A page that could not be written before is shared as it is.
        rcases old.flags.demoted_cases with same | ⟨writes, taken⟩
        · exact .inl (by rw [Option.map_some, PageEntry.demoted, same])
        · exact .inr ⟨old, rfl, writes, by rw [Option.map_some, PageEntry.demoted, taken]⟩

end Program

namespace Machine

variable {η : Type}

/--
A fork that fails once its handler is registered has no effect, whatever it failed for: nothing is
left in use that was not, and all that its caller may notice are pages that are copy-on-write.
-/
theorem forkUndone_after (config : Config) (past : List MachineEvent) (me : EnvId)
    (library : LibraryState η) (handlers : Handlers η) (onWrite : η) (attempts : Nat)
    (failure : UserError) (registered last : UserState η Machine)
    (running : (after config past).current = some me)
    (registering : Program.execute handlers attempts (Program.registerHandler onWrite)
      ⟨library, after config past⟩ = some (.ok (), registered))
    (failed : Program.execute handlers attempts (Program.fork onWrite)
      ⟨library, after config past⟩ = some (.error failure, last)) :
    registered.cpu.kernel.ForkUndone last.cpu.kernel me := by
  have permitted := permitted_after config past
  have coupled := coupled_after config past
  generalize after config past = machine at *
  obtain ⟨slot, space, runs, rfl⟩ := coupled.runs_of_running running
  have begun : (⟨library, machine⟩ : UserState η Machine).cpu.Runs slot space := runs
  -- The fork registers the same handler first, so that it gets to the same state.
  have registers := Program.ends_registerHandler_of begun permitted registering
  have aborts : Program.Aborts registered last space :=
    Program.ends_fork_of registering registers.runs registers.permitted failed
  have undone := aborts.forkUndone registers.runs
  rwa [registers.id_eq] at undone

/-- With twelve frames, memory runs out when the caller's stack is copy-on-write already. -/
theorem forkUndone_stack : ∃ registered last,
    Program.execute FaultPolicy.handlers 1 (Program.registerHandler FaultPolicy.copyOnWrite)
      ⟨{}, after { frames := 12 } startedTwo⟩ = some (.ok (), registered) ∧
    Program.execute FaultPolicy.handlers 1 (Program.fork FaultPolicy.copyOnWrite)
      ⟨{}, after { frames := 12 } startedTwo⟩ = some (.error (.kernel .outOfMemory), last) ∧
    (last.cpu.kernel.entryOf ⟨4097⟩ (stackTop - pageSize)).map PageEntry.flags = some ⟨0x805⟩ ∧
    registered.cpu.kernel.ForkUndone last.cpu.kernel ⟨4097⟩ := by
  have running : (after { frames := 12 } startedTwo).current = some ⟨4097⟩ := by decide +kernel
  -- Both runs are evaluated, and give the two states that are compared.
  have prepared : (Program.execute FaultPolicy.handlers 1
      (Program.registerHandler FaultPolicy.copyOnWrite)
      ⟨{}, after { frames := 12 } startedTwo⟩).map Prod.fst = some (.ok ()) := by
    decide +kernel
  have ran : (Program.execute FaultPolicy.handlers 1 (Program.fork FaultPolicy.copyOnWrite)
      ⟨{}, after { frames := 12 } startedTwo⟩).map (fun outcome => (outcome.1,
        (outcome.2.cpu.kernel.entryOf ⟨4097⟩ (stackTop - pageSize)).map PageEntry.flags)) =
      some (.error (.kernel .outOfMemory), some ⟨0x805⟩) := by
    decide +kernel
  obtain ⟨⟨_, registered⟩, registering, rfl⟩ := Option.map_eq_some_iff.mp prepared
  obtain ⟨⟨result, last⟩, failed, outcome⟩ := Option.map_eq_some_iff.mp ran
  obtain ⟨rfl, marked⟩ := Prod.mk.inj outcome
  exact ⟨registered, last, registering, failed, marked,
    forkUndone_after _ _ _ _ _ _ _ _ _ _ running registering failed⟩

end Machine

end Exokernel
