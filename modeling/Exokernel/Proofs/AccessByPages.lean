import Exokernel.Proofs.Memory.RoundTrip

/-! A machine may look at each page once, rather than at each address of a range. -/

namespace Exokernel.Machine

/-- Resolves a range with one look at each of its pages. -/
def resolveByPages (machine : Machine) (write : Bool) (va : Address) (length : Nat) :
    Except Trapped SpaceHandle × Machine :=
  match machine.current with
  | none => (.error .descheduled, machine)
  | some env =>
    match firstByPages (fun address => (machine.refusal? write address).isSome) length va with
    | some address =>
      -- The fault is the one that the walk for this very address ends with.
      let code := (machine.refusal? write address).getD 0
      let machine := machine.raise TrapVector.pageFault code address
      (.error (machine.trappedFor env), machine)
    | none =>
      match machine.kernel.memory.active with
      | some space => (.ok space, machine)
      | none => (.error .descheduled, machine)

/-- Reads user memory page by page; nothing is read unless the whole range may be. -/
def loadByPages (machine : Machine) (va : Address) (length : Nat) :
    Except Trapped (List UInt8) × Machine :=
  match machine.resolveByPages false va length with
  | (.error trapped, machine) => (.error trapped, machine)
  | (.ok space, machine) =>
    -- A range that has been resolved can be read, so that the last case does not occur.
    match machine.kernel.memory.copyInByPages space va length with
    | .ok bytes => (.ok bytes, machine)
    | .error _ => (.error .descheduled, machine)

/-- Writes user memory page by page; nothing is written unless the whole range may be. -/
def storeByPages (machine : Machine) (va : Address) (data : List UInt8) :
    Except Trapped Unit × Machine :=
  match machine.resolveByPages true va data.length with
  | (.error trapped, machine) => (.error trapped, machine)
  | (.ok space, machine) =>
    -- Permissions have been checked, and the copy itself asks for none.
    let (result, memory) := machine.kernel.memory.copyOutByPages space va data
    (result.mapError fun _ => .descheduled,
      { machine with kernel := { machine.kernel with memory } })

/-- A range is resolved alike, for what is true of an address is true of its whole page. -/
theorem resolveRange_eq_resolveByPages (machine : Machine) (write : Bool) (va : Address)
    (length : Nat) :
    machine.resolveRange write va length = machine.resolveByPages write va length := by
  -- The two differ in the search for the first refused address only.
  rw [resolveRange, firstRefusal_eq_firstByPages]
  rfl

/-- To load page by page comes to the same as to load byte by byte. -/
theorem load_eq_loadByPages (machine : Machine) (va : Address) (length : Nat) :
    machine.load va length = machine.loadByPages va length := by
  -- Neither the pages that may be read nor their bytes depend on how they are looked at.
  simp only [load, resolveRange_eq_resolveByPages, Memory.copyIn_eq_copyInByPages]
  rfl

/-- To store page by page comes to the same as to store byte by byte. -/
theorem store_eq_storeByPages (machine : Machine) (va : Address) (data : List UInt8) :
    machine.store va data = machine.storeByPages va data := by
  -- What is written to one page leaves the mapping of the next one as it is.
  simp only [store, resolveRange_eq_resolveByPages, Memory.copyOut_eq_copyOutByPages]
  rfl

/-- The machine as the library uses it, but with accesses that are made page by page. -/
@[reducible] def cpuByPages : Cpu Machine where
  -- Everything but accesses is as it is for the library.
  syscall := syscall
  access
    | machine, .load va length => machine.loadByPages va length
    | machine, .store va data =>
      let (result, machine) := machine.storeByPages va data
      (result.map fun () => [], machine)
  context := context
  setContext := setContext
  envInfo machine position := machine.kernel.envInfo position
  pageEntry := pageEntry
  tableEntry := tableEntry

/-- Programs cannot tell in which of the two ways their accesses are made. -/
theorem cpu_eq_cpuByPages : (inferInstance : Cpu Machine) = cpuByPages := by
  -- Only the two kinds of access differ, and each is the same function after all.
  have loads : loadByPages = load := by
    funext machine va length
    exact (machine.load_eq_loadByPages va length).symm
  have stores : storeByPages = store := by
    funext machine va data
    exact (machine.store_eq_storeByPages va data).symm
  unfold cpuByPages
  rw [loads, stores]
  rfl

end Exokernel.Machine
