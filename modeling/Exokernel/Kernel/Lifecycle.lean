import Exokernel.Kernel.Schedule

/-! Creating and destroying environments. -/

namespace Exokernel.Kernel

/--
Takes the first free slot for a new runnable environment with an empty address space.

The slot stays free when there is no frame for the page directory.
-/
def allocEnv (kernel : Kernel) (parent : EnvId) :
    Except SysError (Slot × SpaceHandle) × Kernel :=
  -- The id follows the one that the slot had last, so old ids stay invalid.
  match kernel.envs.free with
  | [] => (.error .noFreeEnv, kernel)
  | slot :: rest =>
    match kernel.memory.createSpace with
    | (.error _, memory) => (.error .outOfMemory, { kernel with memory })
    | (.ok space, memory) =>
      let id := (kernel.envAt slot).id.next slot
      let envs := { kernel.envs with free := rest }.put slot (.fresh id parent space)
      (.ok (slot, space), { kernel with memory, envs })

/-- Releases the address space and the slot of an environment; the slot is used again first. -/
def freeEnv (kernel : Kernel) (slot : Slot) : Kernel :=
  -- The processor must not look addresses up in a space that is about to go.
  let memory := if kernel.current = some slot then kernel.memory.activate none else kernel.memory
  let memory :=
    match (kernel.envAt slot).space with
    | some space => (memory.destroySpace space).2
    | none => memory
  let envs := kernel.envs.modify slot Env.vacated
  { kernel with memory, envs := { envs with free := slot :: envs.free } }

/-- Destroys an environment; if it owned the processor, another one is chosen. -/
def destroyEnv (kernel : Kernel) (slot : Slot) : Control Unit × Kernel :=
  -- Whoever destroys another environment goes on; whoever destroys itself cannot.
  let freed := kernel.freeEnv slot
  if kernel.current = some slot then
    let (decision, next) := { freed with current := none }.reschedule
    (.leave decision, next)
  else (.stay (), freed)

end Exokernel.Kernel
