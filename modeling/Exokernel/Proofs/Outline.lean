import Exokernel.Proofs.Accesses
import Exokernel.Proofs.Traps

/-! What kernel entries leave of an environment: its id, its space and its stack pointer. -/

namespace Exokernel

/-- An environment as far as its memory accesses depend on it. -/
structure Outline where
  /-- Its id. -/
  id : EnvId
  /-- Its address space. -/
  space : Option SpaceHandle
  /-- Its stack pointer. -/
  stack : Address

/-- The outline of an environment, with the stack pointer that it goes on with. -/
def Env.outline (env : Env) : Outline :=
  { id := env.id, space := env.space, stack := env.frame.context.esp }

namespace Kernel

variable {kernel : Kernel} {slot owner : Slot} {frame : TrapFrame}

/-- The outline of the environment in a slot. -/
def outline (kernel : Kernel) (slot : Slot) : Outline :=
  (kernel.envAt slot).outline

/-- A change that keeps an environment's outline keeps all outlines. -/
theorem outline_modifyEnv (kernel : Kernel) (slot : Slot) {change : Env → Env}
    (kept : (change (kernel.envAt slot)).outline = (kernel.envAt slot).outline) :
    (kernel.modifyEnv slot change).outline = kernel.outline := by
  -- The slot is the one that was changed, or another one.
  funext other
  rw [outline, envAt_modifyEnv, outline]
  split
  · rename_i same
    rw [same, kept]
  · rfl

/-- To set the caller's result changes no outline. -/
theorem outline_withResult (kernel : Kernel) (value : Word) :
    (kernel.withResult value).outline = kernel.outline := by
  -- A result is no part of it.
  unfold withResult
  split
  · rename_i slot owns
    exact kernel.outline_modifyEnv slot rfl
  · rfl

end Kernel

namespace Machine

variable {machine next : Machine} {slot owner : Slot} {space : SpaceHandle}

/-- The outline of the environment in a slot; the running one has its registers in the processor. -/
def outline (machine : Machine) (slot : Slot) : Outline :=
  -- What the kernel has saved of the running one is out of date.
  if machine.kernel.current = some slot then
    { machine.kernel.outline slot with stack := machine.context.esp }
  else machine.kernel.outline slot

/-- The outline says the id. -/
theorem outline_id (machine : Machine) (slot : Slot) :
    (machine.outline slot).id = (machine.kernel.envAt slot).id := by
  -- The processor has registers only, and so it says nothing about ids.
  unfold outline
  split <;> rfl

/-- The outline says the space. -/
theorem outline_space (machine : Machine) (slot : Slot) :
    (machine.outline slot).space = (machine.kernel.envAt slot).space := by
  -- The processor has registers only, and so it says nothing about spaces.
  unfold outline
  split <;> rfl

/-- Whoever is given the processor takes over its saved stack pointer. -/
theorem outline_apply {kernel : Kernel} {outcome : Dispatch × Kernel}
    (ends : kernel.Ends outcome) : (apply outcome).outline = kernel.outline := by
  funext slot
  cases ends with
  | resume chosen =>
    -- In the table only the count of runs changes.
    have same : (kernel.dispatched chosen).outline slot = kernel.outline slot := by
      rw [Kernel.outline, Kernel.envAt_dispatched, Kernel.outline]
      split
      · rename_i here
        rw [here]
        rfl
      · rfl
    have owns : (apply (.resume (kernel.envAt chosen).id (kernel.envAt chosen).frame,
        kernel.dispatched chosen)).kernel.current = some chosen := rfl
    rw [outline, owns]
    split
    · rename_i here
      rw [Option.some.injEq] at here
      subst here
      simp only [apply, same]
      rfl
    · exact same
  -- While nobody runs, the outlines are those in the table.
  | idle =>
    have unowned : (apply (.halt .idle, kernel.stopped)).kernel.current = none := rfl
    rw [outline, unowned, if_neg (by simp)]
    rfl

/-- The environment of a slot is running, and has its space in use. -/
structure Runs (machine : Machine) (slot : Slot) (space : SpaceHandle) : Prop where
  /-- Processor and kernel fit together. -/
  coupled : machine.Coupled
  /-- The environment owns the processor. -/
  owns : machine.kernel.current = some slot
  /-- Its space. -/
  held : (machine.kernel.envAt slot).space = some space

namespace Runs

/-- Whoever runs can run. -/
theorem ready (runs : machine.Runs slot space) :
    (machine.kernel.envAt slot).isRunnable = true :=
  runs.coupled.settled.ready slot runs.owns

/-- The id of the running environment leads to its slot. -/
theorem slot_id (runs : machine.Runs slot space) : (machine.kernel.envAt slot).id.slot = slot :=
  runs.coupled.settled.envs.slot_id (Env.isLive_of_isRunnable runs.ready)

/-- Whoever runs is known to the processor by its id. -/
theorem current (runs : machine.Runs slot space) :
    machine.current = some (machine.kernel.envAt slot).id := by
  -- The processor runs the owner that the kernel knows.
  rw [runs.coupled.current_eq, Kernel.currentId, runs.owns]
  rfl

/-- The processor runs it, in some frame. -/
theorem cpu_eq (runs : machine.Runs slot space) :
    machine.cpu = .running (machine.kernel.envAt slot).id (machine.frame?.getD {}) :=
  cpu_of_current runs.current

/-- Its space is the one in use. -/
theorem active (runs : machine.Runs slot space) :
    machine.kernel.memory.active = some space := by
  -- The kernel puts the owner's space in use.
  obtain ⟨-, -, used⟩ := runs.coupled.settled.running slot runs.owns
  rw [used, runs.held]

/-- The outline of whoever runs takes its stack pointer from the processor. -/
theorem outline_eq (runs : machine.Runs slot space) : machine.outline slot =
    ⟨(machine.kernel.envAt slot).id, some space, machine.context.esp⟩ := by
  -- It owns the processor, and its slot says the rest.
  rw [outline, if_pos runs.owns, Kernel.outline, Env.outline, runs.held]

/-- Its registers are those of the frame. -/
theorem context_eq (runs : machine.Runs slot space) :
    machine.context = (machine.frame?.getD {}).context := by
  -- The processor is running it.
  rw [Machine.context, runs.cpu_eq]

/-- Its frame is one of user mode. -/
theorem fromUser (runs : machine.Runs slot space) :
    (machine.frame?.getD {}).fromUser = true := by
  -- The frame is the live one, of which this always holds.
  have running := runs.cpu_eq
  generalize machine.frame?.getD {} = live at running ⊢
  exact runs.coupled.userMode live (by rw [frame?, running])

/-- Whoever runs does so on sound memory. -/
theorem backed (runs : machine.Runs slot space) : machine.kernel.memory.Backed :=
  runs.coupled.settled.memory.backed

/-- Registers that are saved with the stack pointer in use give the same outlines. -/
theorem outline_saved (runs : machine.Runs slot space) {frame : TrapFrame}
    (stack : frame.context.esp = machine.context.esp) :
    (machine.kernel.saved slot frame).outline = machine.outline := by
  -- Of the saved registers an outline shows the stack pointer alone.
  funext other
  rw [Kernel.outline, Kernel.envAt_saved, outline, runs.owns]
  split
  · rename_i here
    rw [here, if_pos rfl, Env.outline, Kernel.outline, Env.outline, stack]
  · rename_i elsewhere
    rw [if_neg (by simpa using Ne.symm elsewhere)]
    rfl

end Runs

/-- The running environment is the one with the id that the processor knows. -/
theorem Coupled.runs_of_current (coupled : machine.Coupled) {id : EnvId}
    (current : machine.current = some id) (named : (machine.outline slot).id = id)
    (held : (machine.outline slot).space = some space) : machine.Runs slot space := by
  rw [outline_id] at named
  rw [outline_space] at held
  have consistent := coupled.settled.toConsistent
  rw [coupled.current_eq, Kernel.currentId, Option.map_eq_some_iff] at current
  obtain ⟨owner, owns, same⟩ := current
  -- Ids are unique among the living, so that the owner of the processor is in this very slot.
  have here : owner = slot := consistent.envs.id_injective
    (Env.isLive_of_isRunnable (coupled.settled.ready owner owns))
    (consistent.isLive_of_space held) (same.trans named.symm)
  exact ⟨coupled, here ▸ owns, held⟩

/-- Whoever runs has a slot and a space. -/
theorem Coupled.runs_of_running (coupled : machine.Coupled) {id : EnvId}
    (current : machine.current = some id) :
    ∃ slot space, machine.Runs slot space ∧ (machine.kernel.envAt slot).id = id := by
  -- Whoever can run exists, and whoever exists owns a space.
  rw [coupled.current_eq, Kernel.currentId, Option.map_eq_some_iff] at current
  obtain ⟨slot, owns, named⟩ := current
  obtain ⟨space, held, -⟩ := coupled.settled.owns slot
    (Env.isLive_of_isRunnable (coupled.settled.ready slot owns))
  exact ⟨slot, space, ⟨coupled, owns, held⟩, named⟩

/-- The kernel that carries out a system call of the running environment. -/
def calling (machine : Machine) (slot : Slot) (call : Syscall) (words : Arguments) : Kernel :=
  machine.kernel.saved slot (called (machine.frame?.getD {}) call words)

namespace Runs

variable {call : Syscall} {words : Arguments} {value word : Word} {acted : Kernel}

/-- To save the registers of a call keeps all outlines. -/
theorem outline_calling (runs : machine.Runs slot space) (call : Syscall) (words : Arguments) :
    (machine.calling slot call words).outline = machine.outline := by
  -- A call has the stack pointer of its caller.
  refine runs.outline_saved ?_
  rw [runs.context_eq]
  rfl

/-- The caller can still run when its registers are saved. -/
theorem ready_calling (runs : machine.Runs slot space) (call : Syscall) (words : Arguments) :
    ((machine.calling slot call words).envAt slot).isRunnable = true := by
  -- To save registers does not change a status.
  rw [calling, Kernel.envAt_saved, if_pos rfl]
  exact runs.ready

/-- The kernel is consistent when it carries out a system call. -/
theorem consistent_calling (runs : machine.Runs slot space) (call : Syscall) (words : Arguments) :
    (machine.calling slot call words).Consistent := by
  -- A call comes from user mode, and the kernel is settled before it.
  have user : (called (machine.frame?.getD {}) call words).fromUser = true := runs.fromUser
  exact (runs.coupled.settled.saved user runs.owns).1

/-- A system call is a trap. -/
theorem syscall_snd (runs : machine.Runs slot space) (call : Syscall) (words : Arguments) :
    (machine.syscall call words).2 =
      apply (machine.kernel.trap (called (machine.frame?.getD {}) call words) 0) :=
  step_syscall runs.cpu_eq call words

/-- A caller that still has the processor after its call finds the result in its register. -/
theorem syscall_of_cpu (runs : machine.Runs slot space) {resumed : TrapFrame}
    (running : (machine.syscall call words).2.cpu =
      .running (machine.kernel.envAt slot).id resumed) :
    (machine.syscall call words).1 = .ok resumed.context.regs.eax := by
  rw [runs.syscall_snd] at running
  -- The processor is back with the caller, so that its register is the result.
  have raised (id : EnvId) (frame : TrapFrame) :
      ({ machine with cpu := .running id (callFrame frame call words) } : Machine).raise
        TrapVector.systemCall 0 0 =
      apply (machine.kernel.trap (called frame call words) 0) := rfl
  simp only [Machine.syscall, runs.cpu_eq, raised, running, if_true]

/-- A caller that can still run finds the answer to its call in the result register. -/
theorem answers (runs : machine.Runs slot space)
    (performed : (machine.calling slot call words).perform call words = (.stay value, acted))
    (owns : acted.current = some slot) (ready : (acted.envAt slot).isRunnable = true)
    (named : (acted.envAt slot).id = (machine.kernel.envAt slot).id) :
    machine.syscall call words = (.ok value, apply (.resume (acted.envAt slot).id
      ((acted.envAt slot).frame.withResult value), (acted.withResult value).dispatched slot)) := by
  have user : (called (machine.frame?.getD {}) call words).fromUser = true := runs.fromUser
  have entry := Kernel.trap_request user runs.owns (requests_called _ call words) 0 performed
  have next := runs.syscall_snd call words
  rw [entry, Kernel.goOn_withResult owns ready value] at next
  -- The processor is given back to the caller, so that the result is the one of its call.
  have result := runs.syscall_of_cpu (by rw [next, ← named]; rfl)
  exact Prod.ext result next

/-- A caller that can still run goes on with the answer to its call. -/
theorem syscall_eq (runs : machine.Runs slot space)
    (performed : (machine.calling slot call words).perform call words = (.stay value, acted))
    (owns : acted.current = some slot) (ready : (acted.envAt slot).isRunnable = true)
    (outlines : acted.outline slot = (machine.calling slot call words).outline slot) :
    ∃ next, machine.syscall call words = (.ok value, next) ∧ next.Runs slot space ∧
      next.kernel.memory = acted.memory.activate (some space) ∧
      next.outline = acted.outline := by
  have same := outlines.trans (congrFun (runs.outline_calling call words) slot)
  rw [runs.outline_eq] at same
  -- Its id and its space are those that it had before the call.
  have named : (acted.envAt slot).id = (machine.kernel.envAt slot).id := congrArg Outline.id same
  have held : (acted.envAt slot).space = some space := congrArg Outline.space same
  have result := runs.answers performed owns ready named
  -- The answer goes to the result register, which no outline shows.
  have outlined := outline_apply (acted.withResult value).ends_goOn
  rw [Kernel.outline_withResult, Kernel.goOn_withResult owns ready value] at outlined
  refine ⟨_, result, ⟨?_, rfl, ?_⟩, ?_, outlined⟩
  · have coupled := runs.coupled.syscall call words
    rwa [result] at coupled
  · have space_eq := congrArg Outline.space (congrFun outlined slot)
    rw [outline_space] at space_eq
    exact space_eq.trans held
  · have answered : ((acted.withResult value).envAt slot).space = some space := by
      have space_eq := congrArg Outline.space
        (congrFun (acted.outline_withResult value) slot)
      exact space_eq.trans held
    have kept : (acted.withResult value).memory = acted.memory := by
      unfold Kernel.withResult
      split <;> rfl
    show ((acted.withResult value).memory.activate _) = _
    rw [answered, kept]

/-- An environment that is still running, with its id and its space, runs in its slot. -/
theorem still (runs : machine.Runs slot space) (coupled : next.Coupled)
    (again : next.isRunning (machine.kernel.envAt slot).id = true)
    (named : (next.outline slot).id = (machine.outline slot).id)
    (held : (next.outline slot).space = (machine.outline slot).space) : next.Runs slot space := by
  -- The processor names it, and its slot still has the id and the space.
  have current : next.current = some (machine.kernel.envAt slot).id := by
    simpa [isRunning] using again
  refine coupled.runs_of_current current ?_ ?_
  · rw [named, outline_id]
  · rw [held, outline_space, runs.held]

end Runs

end Machine

end Exokernel
