import Exokernel.Kernel.Trap
import Exokernel.Proofs.Env.Table

/-! The processor goes to an environment that can run, and to none only if there is none. -/

namespace Exokernel.Kernel

variable {kernel : Kernel} {slot other : Slot}

/-- What a slot holds after one environment was changed. -/
@[simp] theorem envAt_modifyEnv (kernel : Kernel) (slot other : Slot) (change : Env → Env) :
    (kernel.modifyEnv slot change).envAt other =
      if other = slot then change (kernel.envAt slot) else kernel.envAt other :=
  kernel.envs.get_modify slot other change

/-- Whatever a change of one environment keeps of it is the same in every slot. -/
theorem view_modifyEnv {α : Sort*} (view : Env → α) (kernel : Kernel) (slot other : Slot)
    {change : Env → Env} (kept : view (change (kernel.envAt slot)) = view (kernel.envAt slot)) :
    view ((kernel.modifyEnv slot change).envAt other) = view (kernel.envAt other) := by
  -- The changed slot keeps what is looked at, and others keep everything.
  rw [envAt_modifyEnv]
  split
  · rename_i here
    rw [here, kept]
  · rfl

/-- How many slots the search for the next environment passes before it comes to a slot. -/
def turnsAfter (start slot : Slot) : Nat :=
  (slot.val + 1023 - start.val) % 1024

/-- The search comes to a slot after passing so many others. -/
theorem searchOrder_turnsAfter (start slot : Slot) :
    (searchOrder start)[turnsAfter start slot]? = some slot := by
  have first : start.val < 1024 := start.isLt
  have last : slot.val < 1024 := slot.isLt
  have inside : turnsAfter start slot < slotCount := Nat.mod_lt _ (by omega)
  rw [searchOrder, List.getElem?_map, List.getElem?_range inside, Option.map_some,
    Option.some.injEq]
  -- Around the table, counted from the slot after the start.
  refine Fin.ext ?_
  show (start.val + turnsAfter start slot + 1) % 1024 = slot.val
  rw [turnsAfter]
  omega

/-- The slot that the search comes to after passing so many others. -/
theorem turnsAfter_of_getElem {start other : Slot} {turns : Nat}
    (there : (searchOrder start)[turns]? = some other) : turnsAfter start other = turns := by
  have first : start.val < 1024 := start.isLt
  rw [searchOrder, List.getElem?_map, Option.map_eq_some_iff] at there
  obtain ⟨step, found, rfl⟩ := there
  obtain ⟨inside, same⟩ := List.getElem?_eq_some_iff.mp found
  rw [List.length_range] at inside
  rw [List.getElem_range] at same
  -- The way back: the distance of the slot at that place.
  show ((start.val + step + 1) % 1024 + 1023 - start.val) % 1024 = turns
  have bound : turns < 1024 := inside
  omega

/-- The search for the next environment leaves no slot out. -/
theorem mem_searchOrder (start slot : Slot) : slot ∈ searchOrder start :=
  List.mem_of_getElem? (searchOrder_turnsAfter start slot)

/-- An environment that is picked can run. -/
theorem isRunnable_of_pickNext (picked : kernel.pickNext = some slot) :
    (kernel.envAt slot).isRunnable = true := by
  -- Both ways to be picked ask whether the environment can run.
  unfold pickNext at picked
  dsimp only at picked
  split at picked
  · rename_i next found
    have ready := List.find?_some found
    simp only [Option.some.injEq] at picked
    simp only [Bool.and_eq_true] at ready
    rw [← picked]
    exact ready.2
  · split at picked
    · rename_i ready
      simp only [Option.some.injEq] at picked
      rw [← picked]
      exact ready
    · simp at picked

/-- If none is picked, none can run. -/
theorem not_isRunnable_of_pickNext (picked : kernel.pickNext = none) (slot : Slot) :
    (kernel.envAt slot).isRunnable = false := by
  -- A slot that can run would have been found on the way round.
  unfold pickNext at picked
  dsimp only at picked
  split at picked
  · simp at picked
  · rename_i exhausted
    split at picked
    · simp at picked
    · rename_i idle
      -- The search passed over every slot but the idle one, which was asked last.
      have passed := List.find?_eq_none.mp exhausted slot (mem_searchOrder _ slot)
      by_cases same : slot = idleSlot
      · rw [same]
        exact Bool.eq_false_of_not_eq_true idle
      · simpa [same] using passed

/-- Whoever the search comes to first is picked, unless it is the idle environment. -/
theorem pickNext_of_first (ready : (kernel.envAt slot).isRunnable = true) (busy : slot ≠ idleSlot)
    (first : ∀ other, other ≠ idleSlot → (kernel.envAt other).isRunnable = true →
      turnsAfter (kernel.lastRun.getD idleSlot) slot ≤
        turnsAfter (kernel.lastRun.getD idleSlot) other) : kernel.pickNext = some slot := by
  generalize starts : kernel.lastRun.getD idleSlot = start at first
  obtain ⟨inside, here⟩ := List.getElem?_eq_some_iff.mp (searchOrder_turnsAfter start slot)
  have found : (searchOrder start).find? (fun slot =>
      slot != idleSlot && (kernel.envAt slot).isRunnable) = some slot := by
    refine List.find?_eq_some_iff_getElem.mpr ⟨by simp [busy, ready], _, inside, here, ?_⟩
    intro turns before
    -- Another one that could run would come later.
    by_contra runs
    simp only [Bool.not_eq_true', Bool.not_eq_false, Bool.and_eq_true, bne_iff_ne] at runs
    have later := first _ runs.1 runs.2
    rw [turnsAfter_of_getElem (List.getElem?_eq_getElem _)] at later
    omega
  unfold pickNext
  dsimp only
  rw [starts, found]

/-- The kernel after it gave the processor to an environment. -/
def dispatched (kernel : Kernel) (slot : Slot) : Kernel :=
  -- Its space comes with the processor.
  { kernel.modifyEnv slot fun env => { env with runs := env.runs + 1 } with
    current := some slot
    lastRun := some slot
    memory := kernel.memory.activate (kernel.envAt slot).space }

/-- Giving the processor away moves one run counter. -/
theorem envAt_dispatched (kernel : Kernel) (slot other : Slot) :
    (kernel.dispatched slot).envAt other =
      if other = slot then { kernel.envAt slot with runs := (kernel.envAt slot).runs + 1 }
      else kernel.envAt other :=
  kernel.envAt_modifyEnv slot other fun env => { env with runs := env.runs + 1 }

/-- The kernel after it stopped for want of environments that can run. -/
def stopped (kernel : Kernel) : Kernel :=
  (kernel.halt .idle).2

/-- An environment that can run is resumed where it was. -/
theorem run_of_isRunnable (ready : (kernel.envAt slot).isRunnable = true) : kernel.run slot =
    (.resume (kernel.envAt slot).id (kernel.envAt slot).frame, kernel.dispatched slot) := by
  -- The other branch of the scheduler is for environments that cannot run.
  simp only [run, if_pos ready]
  rfl

/-- A kernel entry ends with an environment that can run, or stops because there is none. -/
inductive Ends (kernel : Kernel) : Dispatch × Kernel → Prop where
  /-- Some environment that can run goes on. -/
  | resume (slot : Slot) (ready : (kernel.envAt slot).isRunnable = true) :
    Ends kernel
      (.resume (kernel.envAt slot).id (kernel.envAt slot).frame, kernel.dispatched slot)
  /-- No environment can run. -/
  | idle (exhausted : ∀ slot, (kernel.envAt slot).isRunnable = false) :
    Ends kernel (.halt .idle, kernel.stopped)

/-- Scheduling never picks an environment that cannot run. -/
theorem ends_reschedule (kernel : Kernel) : kernel.Ends kernel.reschedule := by
  -- Whoever is picked can run, and if nobody is picked nobody can.
  unfold reschedule
  split
  · rename_i slot picked
    have ready := isRunnable_of_pickNext picked
    rw [run_of_isRunnable ready]
    exact .resume slot ready
  · rename_i picked
    exact .idle (not_isRunnable_of_pickNext picked)

/-- Whatever lies between two states, it was none of the environments' business. -/
structure Undisturbed (kernel next : Kernel) : Prop where
  /-- At most the count of runs has changed in a slot. -/
  envs : ∀ slot, ∃ runs, next.envAt slot = { kernel.envAt slot with runs }
  /-- At most another space is in use. -/
  memory : ∃ active, next.memory = kernel.memory.activate active

/-- Giving the processor away is none of the environments' business, the chosen one's included. -/
theorem Ends.undisturbed {outcome : Dispatch × Kernel} (ends : kernel.Ends outcome) :
    kernel.Undisturbed outcome.2 := by
  cases ends with
  | resume chosen =>
    refine ⟨fun slot => ?_, _, rfl⟩
    rw [envAt_dispatched]
    -- Only the chosen one changes, by its count of runs.
    split
    · rename_i here
      exact ⟨_, by rw [here]⟩
    · exact ⟨_, rfl⟩
  | idle => exact ⟨fun slot => ⟨_, rfl⟩, none, rfl⟩

/-- Nobody's registers change when the processor is given away. -/
theorem Ends.frame_eq {outcome : Dispatch × Kernel} (ends : kernel.Ends outcome) (slot : Slot) :
    (outcome.2.envAt slot).frame = (kernel.envAt slot).frame := by
  -- Only counts of runs may differ.
  obtain ⟨runs, same⟩ := ends.undisturbed.envs slot
  rw [same]

/-- Nobody's status changes when the processor is given away. -/
theorem Ends.status_eq {outcome : Dispatch × Kernel} (ends : kernel.Ends outcome) (slot : Slot) :
    (outcome.2.envAt slot).status = (kernel.envAt slot).status := by
  -- Only counts of runs may differ.
  obtain ⟨runs, same⟩ := ends.undisturbed.envs slot
  rw [same]

/-- Whoever is picked is resumed. -/
theorem reschedule_of_pickNext (picked : kernel.pickNext = some slot) : kernel.reschedule =
    (.resume (kernel.envAt slot).id (kernel.envAt slot).frame, kernel.dispatched slot) := by
  -- What is picked can run.
  have chosen : kernel.reschedule = kernel.run slot := by
    unfold reschedule
    rw [picked]
  rw [chosen]
  exact run_of_isRunnable (isRunnable_of_pickNext picked)

/-- If nobody can be picked, the kernel stops. -/
theorem reschedule_of_no_pickNext (picked : kernel.pickNext = none) :
    kernel.reschedule = kernel.halt .idle := by
  -- With nobody to pick, the search comes to its last case.
  unfold reschedule
  rw [picked]

/-- The owner of the processor goes on if it can. -/
theorem goOn_of_isRunnable (owns : kernel.current = some slot)
    (ready : (kernel.envAt slot).isRunnable = true) : kernel.goOn =
      (.resume (kernel.envAt slot).id (kernel.envAt slot).frame, kernel.dispatched slot) := by
  -- No search is made.
  simp only [goOn, owns, if_pos ready]
  exact run_of_isRunnable ready

/-- Whoever goes on after a kernel entry can run. -/
theorem ends_goOn (kernel : Kernel) : kernel.Ends kernel.goOn := by
  -- An owner that was blocked or destroyed meanwhile is passed over.
  unfold goOn
  split
  · split
    · rename_i slot _ ready
      rw [run_of_isRunnable ready]
      exact .resume slot ready
    · exact kernel.ends_reschedule
  · exact kernel.ends_reschedule

/-- Going on with the same environment and choosing the next one end alike. -/
theorem ends_of_continues {outcome : Dispatch × Kernel}
    (continues : outcome = kernel.goOn ∨ outcome = kernel.reschedule) : kernel.Ends outcome := by
  -- Both choices end with an environment that can run, or with none.
  rcases continues with same | next
  · rw [same]
    exact kernel.ends_goOn
  · rw [next]
    exact kernel.ends_reschedule

/-- Nobody goes on without an owner of the processor, so another environment is chosen. -/
theorem goOn_of_current_none (unowned : kernel.current = none) :
    kernel.goOn = kernel.reschedule := by
  -- There is nobody to prefer.
  simp only [goOn, unowned]

end Exokernel.Kernel
