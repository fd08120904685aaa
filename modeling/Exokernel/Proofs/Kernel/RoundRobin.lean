import Exokernel.Proofs.Kernel.Choices
import Exokernel.Proofs.Kernel.Wakeups

/-! The turn of an environment that waits for the processor comes nearer with every choice. -/

namespace Exokernel.Kernel

variable {kernel last next : Kernel} {slot chosen start : Slot} {event : KernelEvent} {id : EnvId}

/-- The slot behind which the search for the next environment starts. -/
def cursor (kernel : Kernel) : Slot :=
  kernel.lastRun.getD idleSlot

/-- Whoever is picked comes before everybody else that can run, and is not the idle environment. -/
theorem turnsAfter_le_of_pickNext (picked : kernel.pickNext = some chosen)
    (busy : slot ≠ idleSlot) (ready : (kernel.envAt slot).isRunnable = true) :
    chosen ≠ idleSlot ∧ turnsAfter kernel.cursor chosen ≤ turnsAfter kernel.cursor slot := by
  unfold pickNext at picked
  dsimp only at picked
  rw [← cursor] at picked
  split at picked
  · rename_i found first
    obtain rfl := Option.some.inj picked
    obtain ⟨accepted, turns, inside, there, earlier⟩ := List.find?_eq_some_iff_getElem.mp first
    simp only [Bool.and_eq_true, bne_iff_ne] at accepted
    refine ⟨accepted.1, ?_⟩
    rw [turnsAfter_of_getElem (List.getElem?_eq_some_iff.mpr ⟨inside, there⟩)]
    -- The search has not passed the other one, for that one can run.
    by_contra later
    obtain ⟨_, here⟩ := List.getElem?_eq_some_iff.mp (searchOrder_turnsAfter kernel.cursor slot)
    have refused := earlier _ (not_le.mp later)
    simp [here, busy, ready] at refused
  · rename_i exhausted
    have passed := List.find?_eq_none.mp exhausted slot (mem_searchOrder _ slot)
    simp [busy, ready] at passed

/-- What comes before a slot, seen from another one before it, comes before it from the start. -/
theorem turnsAfter_lt_trans {other : Slot} (first : turnsAfter start chosen < turnsAfter start slot)
    (second : turnsAfter chosen other < turnsAfter chosen slot) :
    turnsAfter start other < turnsAfter start slot := by
  -- Turns are differences modulo the number of slots.
  have begins : start.val < 1024 := start.isLt
  have middle : chosen.val < 1024 := chosen.isLt
  have passes : other.val < 1024 := other.isLt
  have ends : slot.val < 1024 := slot.isLt
  simp only [turnsAfter] at *
  omega

/-- A search that starts behind a slot comes back to it in the end. -/
theorem not_turnsAfter_self_lt : ¬turnsAfter chosen chosen < turnsAfter chosen slot := by
  -- Its own turn is the last one.
  have here : chosen.val < 1024 := chosen.isLt
  simp only [turnsAfter]
  omega

/-- Different slots have different turns. -/
theorem turnsAfter_lt (le : turnsAfter start chosen ≤ turnsAfter start slot)
    (different : chosen ≠ slot) : turnsAfter start chosen < turnsAfter start slot := by
  -- The search order leads back from turns to slots.
  refine lt_of_le_of_ne le fun same => different ?_
  have here := searchOrder_turnsAfter start chosen
  rw [same, searchOrder_turnsAfter] at here
  exact (Option.some.inj here).symm

/-- An event whose end is a choice of the next environment. -/
theorem step_of_search (found : kernel.search? event = some last) :
    kernel.step event = last.reschedule.2 ∧ kernel.decision? event = some last.reschedule.1 := by
  -- Only a trap and a dispatch give the processor away.
  cases event with
  | trap frame address =>
    rw [Kernel.step, decision?, trap_of_search found]
    exact ⟨rfl, rfl⟩
  | reschedule =>
    obtain rfl := Option.some.inj found
    exact ⟨rfl, rfl⟩
  | _ => simp [search?] at found

/-- Whoever is chosen in an event counts as dispatched last from then on, and nobody else does. -/
theorem Settled.lastRun_step (settled : kernel.Settled) (event : KernelEvent) :
    (kernel.step event).lastRun = (kernel.choice? event).or kernel.lastRun := by
  -- An event that searches ends with a dispatch if the search finds somebody.
  cases search : kernel.search? event with
  | none =>
    rw [settled.lastRun_of_no_search search, choice?, search, Option.bind_none, Option.none_or]
  | some last =>
    rw [(step_of_search search).1, choice?, search, Option.bind_some, ← lastRun_of_search search]
    cases picked : last.pickNext with
    | none =>
      rw [reschedule_of_no_pickNext picked]
      rfl
    | some chosen =>
      rw [reschedule_of_pickNext picked]
      rfl

/-- The slot that was dispatched last is the one that was chosen last in the run. -/
theorem Settled.lastRun_run (settled : kernel.Settled) (future : List KernelEvent) :
    (future.foldl Kernel.step kernel).lastRun =
      (kernel.choices future).getLast?.or kernel.lastRun := by
  -- Induct on the run: an event makes a choice, or it leaves the last one.
  induction future generalizing kernel with
  | nil => rfl
  | cons event rest ih =>
    rw [List.foldl_cons, ih (settled.step event), settled.lastRun_step, choices,
      List.getLast?_append, Option.or_assoc]
    cases kernel.choice? event <;> rfl

/-- How an event that passes over a waiting slot moves the place where the search starts. -/
inductive Turn (kernel next : Kernel) (slot : Slot) : Option Slot → Prop where
  /-- Nobody was chosen. -/
  | none (cursor_eq : next.cursor = kernel.cursor) : Turn kernel next slot none
  /-- Somebody was chosen whose turn comes before the waiting slot's. -/
  | some {chosen : Slot} (busy : chosen ≠ idleSlot) (cursor_eq : next.cursor = chosen)
    (before : turnsAfter kernel.cursor chosen < turnsAfter kernel.cursor slot) :
    Turn kernel next slot (some chosen)

/-- An event that does not dispatch an environment that can run moves the search towards it. -/
theorem Settled.turn (settled : kernel.Settled) {env : Env} (busy : id.slot ≠ idleSlot)
    (found : (kernel.step event).env? id = some env) (ready : env.status = .runnable)
    (passed : ¬kernel.Dispatches event id) :
    kernel.Turn (kernel.step event) id.slot (kernel.choice? event) := by
  obtain ⟨rfl, -, named⟩ := env?_eq_some.mp found
  cases search : kernel.search? event with
  | none =>
    rw [choice?, search]
    exact .none (congrArg (·.getD idleSlot) (settled.lastRun_of_no_search search))
  | some last =>
    obtain ⟨stepped, decided⟩ := step_of_search search
    have starts : last.cursor = kernel.cursor :=
      congrArg (·.getD idleSlot) (lastRun_of_search search)
    have runnable : (last.envAt id.slot).isRunnable = true := by
      rw [Env.isRunnable, ← last.ends_reschedule.status_eq, ← stepped, ready]
      rfl
    rw [choice?, search, Option.bind_some]
    cases picked : last.pickNext with
    | none => simp [not_isRunnable_of_pickNext picked] at runnable
    | some chosen =>
      rw [reschedule_of_pickNext picked] at stepped decided
      obtain ⟨working, le⟩ := turnsAfter_le_of_pickNext picked busy runnable
      rw [starts] at le
      rw [stepped]
      refine .some working rfl (turnsAfter_lt le ?_)
      -- Whoever is chosen gets the processor, so it is another one.
      rintro rfl
      rw [stepped, envAt_dispatched, if_pos rfl] at named
      have own : (last.envAt id.slot).id = id := named
      rw [own] at decided
      exact passed ⟨_, decided⟩

/-- Throughout a run an environment can run, and is not given the processor. -/
structure Waiting (kernel : Kernel) (future : List KernelEvent) (id : EnvId) : Prop where
  /-- It exists and can run. -/
  ready : ∀ done, done <+: future →
    ∃ env, (done.foldl step kernel).env? id = some env ∧ env.status = .runnable
  /-- It is not given the processor. -/
  passed : ∀ done event rest, future = done ++ event :: rest →
    ¬(done.foldl step kernel).Dispatches event id

/-- Whoever waits through a run waits through the rest of it. -/
theorem Waiting.tail {rest : List KernelEvent} (waiting : kernel.Waiting (event :: rest) id) :
    (kernel.step event).Waiting rest id where
  ready done inside := waiting.ready (event :: done) (List.cons_prefix_cons.mpr ⟨rfl, inside⟩)
  passed done next rest split := waiting.passed (event :: done) next rest (by rw [split]; rfl)

/-- Everybody who is chosen while an environment waits comes before it, once. -/
theorem Settled.choices_before (settled : kernel.Settled) (busy : id.slot ≠ idleSlot)
    {future : List KernelEvent} (waiting : kernel.Waiting future id) :
    (kernel.choices future).Nodup ∧ ∀ chosen ∈ kernel.choices future, chosen ≠ idleSlot ∧
      turnsAfter kernel.cursor chosen < turnsAfter kernel.cursor id.slot := by
  -- Induct on the run; each choice moves the start of the search, but not past the one that waits.
  induction future generalizing kernel with
  | nil => simp [choices]
  | cons event rest ih =>
    obtain ⟨env, found, ready⟩ := waiting.ready [event] (by simp)
    have turn := settled.turn busy found ready (waiting.passed [] event rest rfl)
    obtain ⟨distinct, before⟩ := ih (settled.step event) waiting.tail
    rw [choices]
    generalize (kernel.step event).choices rest = later at distinct before
    generalize kernel.choice? event = choice at turn
    cases turn with
    | none cursor_eq =>
      rw [cursor_eq] at before
      exact ⟨distinct, before⟩
    | some working cursor_eq first =>
      rename_i chosen
      rw [cursor_eq] at before
      simp only [Option.toList_some, List.singleton_append, List.nodup_cons, List.forall_mem_cons]
      refine ⟨⟨fun again => not_turnsAfter_self_lt (before chosen again).2, distinct⟩,
        ⟨working, first⟩, fun other chosen => ?_⟩
      obtain ⟨busy, between⟩ := before other chosen
      exact ⟨busy, turnsAfter_lt_trans first between⟩

/--
While an environment outside the idle slot can run and is not given the processor, every choice
of the next environment falls on another slot, and never on the idle one. There are at most 1022.
At every moment the last of the choices is the slot that was dispatched last.
-/
theorem choices_after (config : Config) (past future : List KernelEvent) (id : EnvId)
    (busy : id.slot ≠ idleSlot) (waiting : (after config past).Waiting future id) :
    ((after config past).choices future).Nodup ∧
    idleSlot ∉ (after config past).choices future ∧
    id.slot ∉ (after config past).choices future ∧
    ((after config past).choices future).length ≤ 1022 ∧
    ∀ done, done <+: future → (done.foldl step (after config past)).lastRun =
      ((after config past).choices done).getLast?.or (after config past).lastRun := by
  have settled := settled_after config past
  obtain ⟨distinct, before⟩ := settled.choices_before busy waiting
  generalize (after config past).choices future = chosen at *
  have working : idleSlot ∉ chosen := fun idle => (before idleSlot idle).1 rfl
  have others : id.slot ∉ chosen := fun own => lt_irrefl _ (before id.slot own).2
  refine ⟨distinct, working, others, ?_, fun done _ => settled.lastRun_run done⟩
  -- Together with the two that are never chosen, the choices are different slots.
  have all : (idleSlot :: id.slot :: chosen).Nodup :=
    List.nodup_cons.mpr ⟨by simp [busy.symm, working], List.nodup_cons.mpr ⟨others, distinct⟩⟩
  have short : chosen.length + 1 < slotCount := by simpa using all.length_le_card
  exact Nat.le_of_lt_succ (Nat.lt_of_succ_lt_succ short)

/-- Four environments can run besides the idle one, and the first of them gets the processor. -/
def crowd : List KernelEvent :=
  List.replicate 5 (.create ⟨0, []⟩) ++ [.reschedule]

/-- The last one waits while the timer gives two others their turn. -/
theorem choices_crowd :
    (after { frames := 32 } crowd).Waiting [timerEvent, timerEvent] ⟨4100⟩ ∧
    (after { frames := 32 } crowd).choices [timerEvent, timerEvent] = [slotAt 2, slotAt 3] ∧
    slotAt 4 ∉ (after { frames := 32 } crowd).choices [timerEvent, timerEvent] := by
  have waiting : (after { frames := 32 } crowd).Waiting [timerEvent, timerEvent] ⟨4100⟩ := by
    -- What holds after each of the events, and whom each of them gives the processor.
    have ready : ∀ n < 3, ((([timerEvent, timerEvent].take n).foldl step
        (after { frames := 32 } crowd)).env? ⟨4100⟩).map (·.status) = some .runnable := by
      decide +kernel
    have others : ∀ n < 2, (([timerEvent, timerEvent].take n).foldl step
        (after { frames := 32 } crowd)).decision? timerEvent =
          some (.resume ⟨4098 + .ofNat n⟩ ((([timerEvent, timerEvent].take n).foldl step
            (after { frames := 32 } crowd)).envAt (slotAt (2 + n))).frame) := by
      decide +kernel
    generalize after { frames := 32 } crowd = kernel at ready others
    refine ⟨fun done inside => ?_, fun done event rest split => ?_⟩
    · have found := ready done.length (Nat.lt_succ_of_le inside.length_le)
      rwa [← List.prefix_iff_eq_take.mp inside, Option.map_eq_some_iff] at found
    · have short : done.length < 2 := by
        have lengths := congrArg List.length split
        simp only [List.length_append, List.length_cons, List.length_nil] at lengths
        omega
      have begins : [timerEvent, timerEvent].take done.length = done := by simp [split]
      obtain rfl : event = timerEvent := by
        have member : event ∈ [timerEvent, timerEvent] := by simp [split]
        simpa using member
      have decided := others done.length short
      rw [begins] at decided
      rintro ⟨frame, dispatched⟩
      rw [decided, Option.some.injEq, Dispatch.resume.injEq] at dispatched
      have names : ∀ n < 2, (⟨4098 + .ofNat n⟩ : EnvId) ≠ ⟨4100⟩ := by decide
      exact names done.length short dispatched.1
  exact ⟨waiting, by decide +kernel,
    (choices_after { frames := 32 } crowd _ ⟨4100⟩ (by decide) waiting).2.2.1⟩

end Exokernel.Kernel
