import Exokernel.Proofs.Profiles

/-! What holds in every state of a machine because nothing that happens to the kernel ends it. -/

namespace Exokernel

namespace Machine

variable {machine : Machine}

/-- What every activity of the kernel keeps is kept by whatever happens to a machine. -/
theorem kernel_step (Holds : Kernel → Prop) (event : MachineEvent)
    (held : Holds machine.kernel)
    (acts : ∀ activity, Holds (machine.kernel.act activity)) :
    Holds (machine.step event).kernel := by
  -- Whatever the processor raises enters the kernel as a trap, or does not reach it.
  have raised (cpu : CpuState) (vector code : Word) (address : Address) :
      Holds ({ machine with cpu }.raise vector code address).kernel := by
    rcases kernel_raise { machine with cpu } vector code address with same | ⟨frame, entered⟩
    · rw [same]
      exact held
    · rw [entered]
      exact acts (.trap frame address)
  cases event with
  | create image => exact acts (.create image)
  | boot =>
    simp only [Machine.step, Machine.boot, kernel_apply]
    simpa only [Kernel.act] using acts .reschedule
  | load va length => exact acts (.load machine.cpu va length)
  | store va data => exact acts (.store machine.cpu va data)
  -- A call is a trap, whatever the processor makes of its answer.
  | syscall call words =>
    simp only [Machine.step, Machine.syscall]
    split
    · split
      · split <;> exact raised _ _ _ _
      · exact raised _ _ _ _
    · exact held
  | setContext context =>
    simp only [Machine.step, Machine.setContext]
    split <;> exact held
  | exception vector code => exact raised machine.cpu vector code 0
  | interrupt line => exact raised machine.cpu (TrapVector.irqBase + line) 0 0
  | kernelTrap vector eip address =>
    simp only [Machine.step, Machine.kernelTrap, kernel_apply]
    exact acts (.trap (.kernel vector eip) address)
  | forceFailure => exact acts .forceFailure
  | typed bytes => exact acts (.typed bytes)

/-- What holds at boot, and is kept by every activity of a settled kernel, always holds. -/
theorem kernel_after (Holds : Kernel → Prop) (config : Config) (events : List MachineEvent)
    (boot : Holds (.boot config))
    (acts : ∀ kernel, kernel.Settled → Holds kernel → ∀ activity, Holds (kernel.act activity)) :
    Holds (after config events).kernel := by
  -- Induct on the events, the last one last.
  induction events using List.reverseRecOn with
  | nil => exact boot
  | append_singleton events event ih =>
    rw [after, List.foldl_append]
    exact kernel_step Holds event ih (acts _ (coupled_after config events).settled ih)

/-- In every state of a machine, permissions are ones that user code may ask for. -/
theorem permitted_after (config : Config) (events : List MachineEvent) :
    (after config events).kernel.memory.Permitted := by
  -- At boot there are no entries, and an activity only makes ones that were asked for.
  have begun : (Kernel.boot config).memory.Permitted := by
    intro handle va entry found
    simp [Kernel.boot, Memory.entryAt?, Memory.table?, Memory.ofFrames] at found
  have acts (kernel : Kernel) (settled : kernel.Settled) (permitted : kernel.memory.Permitted)
      (activity : Activity) : (kernel.act activity).memory.Permitted :=
    (settled.derives_act activity).permitted permitted
  exact kernel_after (fun kernel => kernel.memory.Permitted) config events begun acts

end Machine

namespace Kernel

variable {kernel acted next : Kernel} {owner slot : Slot} {frame : TrapFrame}

/-- No environment has address zero as its fault entry point. -/
def EntriesNonzero (kernel : Kernel) : Prop :=
  ∀ slot, (kernel.envAt slot).faultEntry ≠ some 0

/-- What is none of the environments' business shows in no profile. -/
theorem profile_undisturbed (undisturbed : kernel.Undisturbed next) :
    next.profile = kernel.profile := by
  -- Counts of runs are no part of a profile.
  funext slot
  obtain ⟨runs, same⟩ := undisturbed.envs slot
  rw [profile, same, profile]
  rfl

/-- An answer shows in no profile. -/
theorem profile_answered (kernel : Kernel) (answer : Option Word) :
    (kernel.answered answer).profile = kernel.profile := by
  -- It is in the registers, or there is none.
  cases answer with
  | none => rfl
  | some value => exact kernel.profile_withResult value

namespace EntriesNonzero

/-- Entry points are read from profiles. -/
theorem of_profile (nonzero : kernel.EntriesNonzero) (same : next.profile = kernel.profile) :
    next.EntriesNonzero := by
  -- The entry point is part of the profile.
  intro slot
  have entry : (next.envAt slot).faultEntry = (kernel.envAt slot).faultEntry :=
    (congrArg Env.faultEntry (congrFun same slot) :)
  rw [entry]
  exact nonzero slot

/-- A change of one environment may set its entry point, but not to zero. -/
theorem modifyEnv (nonzero : kernel.EntriesNonzero) {change : Env → Env}
    (kept : (change (kernel.envAt slot)).faultEntry ≠ some 0) :
    (kernel.modifyEnv slot change).EntriesNonzero := by
  -- Only the changed record needs to be looked at.
  intro other
  rw [envAt_modifyEnv]
  split
  · exact kept
  · exact nonzero other

/-- An environment that goes takes its entry point with it. -/
theorem freeEnv (nonzero : kernel.EntriesNonzero) (slot : Slot) :
    (kernel.freeEnv slot).EntriesNonzero := by
  -- A vacated slot has none.
  intro other
  rw [envAt_freeEnv]
  split
  · simp [Env.vacated]
  · exact nonzero other

/-- A new environment handles no faults yet. -/
theorem allocEnv (nonzero : kernel.EntriesNonzero) (parent : EnvId) :
    (kernel.allocEnv parent).2.EntriesNonzero := by
  -- Only the slot of the new environment changes.
  cases allocated : kernel.allocEnv parent with
  | mk result made =>
    cases result with
    | error cause =>
      rcases allocEnv_error allocated with rfl | ⟨-, memory, -, rfl⟩ <;> exact nonzero
    | ok created =>
      intro other
      rw [envAt_allocEnv allocated]
      split
      · simp [Env.fresh]
      · exact nonzero other

/-- A registration with address zero removes the entry point. -/
theorem setFaultEntry (nonzero : kernel.EntriesNonzero) (target : EnvId) (entry : Address) :
    (kernel.setFaultEntry target entry).2.EntriesNonzero := by
  -- What is stored is no entry point, or the address, which is not zero then.
  unfold Kernel.setFaultEntry
  split
  · exact nonzero
  · refine nonzero.modifyEnv ?_
    dsimp only
    split
    · simp
    · rename_i other
      simpa using other

/-- No other trap sets an entry point. -/
theorem effect (nonzero : kernel.EntriesNonzero) (consistent : kernel.Consistent)
    {address : Address} {answer : Option Word}
    (effect : Effect kernel owner frame address acted answer)
    (other : ∀ words, ¬frame.Requests .setFaultEntry words) : acted.EntriesNonzero := by
  intro slot
  -- An entry point stays, or goes with its environment.
  cases consistent.slotEffect effect slot with
  | kept changed | faulted _ changed | statusSet _ _ _ changed | waits _ _ _ changed
  | filled _ _ _ _ changed =>
    rw [changed]
    exact nonzero slot
  | exited _ _ vacated | destroyed _ _ vacated => simp [vacated, Env.vacated]
  | entrySet request => exact absurd request (other _)
  | born _ _ child => simp [child, Env.fresh, Env.asChildOf]

/-- No trap sets an entry point to zero. -/
theorem trap (nonzero : kernel.EntriesNonzero) (settled : kernel.Settled) (frame : TrapFrame)
    (address : Address) : (kernel.trap frame address).2.EntriesNonzero := by
  cases settled.trapCourse frame address with
  | outside unowned undisturbed => exact nonzero.of_profile (profile_undisturbed undisturbed)
  | @owned owner acted answer user current effect ends =>
    obtain ⟨consistent, -, -⟩ := settled.saved user current
    have saved : (kernel.saved owner frame).EntriesNonzero :=
      nonzero.of_profile (kernel.profile_saved owner frame)
    by_cases request : ∃ words, frame.Requests .setFaultEntry words
    · -- The call itself says which entry points it sets.
      obtain ⟨words, request⟩ := request
      have performed : (kernel.saved owner frame).perform .setFaultEntry words =
          (.stay _, ((kernel.saved owner frame).setFaultEntry ⟨words.first⟩ words.second).2) :=
        rfl
      rw [trap_request user current request address performed]
      exact (saved.setFaultEntry _ _).of_profile
        ((profile_undisturbed (ends_goOn _).undisturbed).trans (profile_withResult _ _))
    · have kept := saved.effect consistent effect fun words asked => request ⟨words, asked⟩
      exact kept.of_profile
        ((profile_undisturbed ends.undisturbed).trans (acted.profile_answered answer))

/-- An environment that is created from an image handles no faults yet. -/
theorem createEnv (nonzero : kernel.EntriesNonzero) (image : ProgramImage) :
    (kernel.createEnv image).2.EntriesNonzero := by
  -- An image that cannot be loaded takes the environment with it.
  have made := nonzero.allocEnv .self
  unfold Kernel.createEnv
  cases allocated : kernel.allocEnv .self with
  | mk result next =>
    rw [allocated] at made
    cases result with
    | error cause => exact made
    | ok created =>
      dsimp only
      split
      · exact EntriesNonzero.freeEnv made _
      · exact EntriesNonzero.modifyEnv made (made _)

/-- No activity sets an entry point to zero. -/
theorem act (nonzero : kernel.EntriesNonzero) (settled : kernel.Settled) (activity : Activity) :
    (kernel.act activity).EntriesNonzero := by
  -- An access of user code is a trap, or touches memory alone.
  cases activity with
  | create image => exact nonzero.createEnv image
  | trap frame address => exact nonzero.trap settled frame address
  | load cpu va length =>
    rcases Machine.kernel_load { kernel, cpu } va length with same | ⟨frame, address, entered⟩
    · rw [Kernel.act, same]
      exact nonzero
    · rw [Kernel.act, entered]
      exact nonzero.trap settled frame address
  | store cpu va data =>
    rcases Machine.kernel_store { kernel, cpu } va data with
      same | ⟨frame, address, entered⟩ | ⟨space, -, written, -⟩
    · rw [Kernel.act, same]
      exact nonzero
    · rw [Kernel.act, entered]
      exact nonzero.trap settled frame address
    · rw [Kernel.act, written]
      exact nonzero
  -- Who is given the processor is no part of a profile.
  | reschedule =>
    exact nonzero.of_profile (profile_undisturbed (ends_reschedule kernel).undisturbed)
  | forceFailure | typed bytes => exact nonzero

end EntriesNonzero

end Kernel

/-- In no state of a machine is address zero a fault entry point. -/
theorem Machine.entriesNonzero_after (config : Config) (events : List MachineEvent) :
    (after config events).kernel.EntriesNonzero := by
  -- No slot has an entry point at boot, and every step keeps to it.
  have begun : (Kernel.boot config).EntriesNonzero := by
    intro slot
    simp [Kernel.boot, Kernel.envAt, EnvTable.get_empty]
  exact kernel_after Kernel.EntriesNonzero config events begun
    fun kernel settled nonzero => nonzero.act settled

end Exokernel
