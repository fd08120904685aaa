import Exokernel.Machine
import Exokernel.Proofs.Memory.Bytes

/-! Loads and stores of the running environment: in place, or by way of the kernel. -/

namespace Exokernel.Machine

variable {machine next : Machine} {write : Bool} {va : Address} {length : Nat}
  {space : SpaceHandle}

/-- The processor does what the kernel decided, and the kernel is as it left it. -/
@[simp] theorem kernel_apply (outcome : Dispatch × Kernel) :
    (apply outcome).kernel = outcome.2 := by
  -- Whatever the decision, only the processor differs.
  obtain ⟨decision, kernel⟩ := outcome
  cases decision <;> rfl

/-- A trap from user mode enters the kernel, or there is nobody to trap. -/
theorem kernel_raise (machine : Machine) (vector code : Word) (address : Address) :
    (machine.raise vector code address).kernel = machine.kernel ∨
      ∃ frame, (machine.raise vector code address).kernel =
        (machine.kernel.trap frame address).2 := by
  unfold raise
  -- The frame is the one that the environment was stopped with.
  split
  · rename_i env frame running
    exact .inr ⟨_, kernel_apply _⟩
  · exact .inl rfl

/-- An address is not refused exactly if its page is mapped in user memory with permission. -/
theorem refusal?_eq_none : machine.refusal? write va = none ↔
    ∃ space entry, machine.kernel.memory.active = some space ∧ va < userTop ∧
      machine.kernel.memory.entryAt? space va = some entry ∧
      entry.flags.contains (accessFlags write) = true := by
  -- The checks come one after another: a space in use, user memory, an entry, its permission.
  unfold refusal?
  constructor
  · intro granted
    split at granted
    · simp at granted
    · rename_i space used
      split at granted
      · simp at granted
      · rename_i below
        split at granted
        · simp at granted
        · rename_i entry found
          split at granted
          · rename_i allowed
            exact ⟨space, entry, used, UInt32.not_le.mp below, found, allowed⟩
          · simp at granted
  · rintro ⟨space, entry, used, below, found, allowed⟩
    -- The way back: with all four facts, no check refuses.
    have inside : ¬userTop ≤ va := UInt32.not_le.mpr below
    simp [used, inside, found, allowed]

/-- A range that is used in place has no refused address. -/
theorem resolveRange_ok (granted : machine.resolveRange write va length = (.ok space, next)) :
    next = machine ∧ machine.kernel.memory.active = some space ∧
      ∀ offset < length, machine.refusal? write (va + UInt32.ofNat offset) = none := by
  -- The machine goes on only if the search for a refused address finds none.
  unfold resolveRange at granted
  split at granted
  · simp at granted
  · split at granted
    · simp at granted
    · rename_i exhausted
      split at granted
      · rename_i used
        simp only [Prod.mk.injEq, Except.ok.injEq] at granted
        obtain ⟨rfl, rfl⟩ := granted
        refine ⟨rfl, used, fun offset inside => ?_⟩
        -- An address that has passed is one that the search came by.
        have passed := firstAddress_eq_none exhausted offset inside
        simpa using passed
      · simp at granted

/-- Resolving a range traps at most once. -/
theorem kernel_resolveRange (machine : Machine) (write : Bool) (va : Address) (length : Nat) :
    (machine.resolveRange write va length).2.kernel = machine.kernel ∨
      ∃ frame address, (machine.resolveRange write va length).2.kernel =
        (machine.kernel.trap frame address).2 := by
  -- Only a refused address enters the kernel, and then nothing comes after the fault.
  unfold resolveRange
  split
  · exact .inl rfl
  · split
    · rename_i address refused
      dsimp only
      rcases machine.kernel_raise TrapVector.pageFault ((machine.refusal? write address).getD 0)
        address with same | ⟨frame, entered⟩
      · exact .inl same
      · exact .inr ⟨frame, address, entered⟩
    · split <;> exact .inl rfl

/-- A load traps at most once, and otherwise leaves the kernel as it is. -/
theorem kernel_load (machine : Machine) (va : Address) (length : Nat) :
    (machine.load va length).2.kernel = machine.kernel ∨
      ∃ frame address, (machine.load va length).2.kernel =
        (machine.kernel.trap frame address).2 := by
  -- The bytes are read once the range is resolved, and reading does not enter the kernel.
  have resolved := machine.kernel_resolveRange false va length
  unfold load
  split
  · rename_i next refused
    rwa [refused] at resolved
  · rename_i space next granted
    rw [granted] at resolved
    split <;> exact resolved

/-- A store traps at most once, or writes to pages that the environment may write to. -/
theorem kernel_store (machine : Machine) (va : Address) (data : List UInt8) :
    (machine.store va data).2.kernel = machine.kernel ∨
    (∃ frame address, (machine.store va data).2.kernel =
      (machine.kernel.trap frame address).2) ∨
    ∃ space, machine.kernel.memory.active = some space ∧
      (machine.store va data).2.kernel =
        { machine.kernel with memory := (machine.kernel.memory.copyOut space va data).2 } ∧
      ∀ offset < data.length, ∀ entry,
        machine.kernel.memory.entryAt? space (va + UInt32.ofNat offset) = some entry →
          entry.flags.contains .writable = true := by
  have resolved := machine.kernel_resolveRange true va data.length
  unfold store
  split
  · rename_i next refused
    rw [refused] at resolved
    exact resolved.imp_right .inl
  · rename_i space next granted
    obtain ⟨rfl, used, passed⟩ := resolveRange_ok granted
    refine .inr (.inr ⟨space, used, rfl, fun offset inside entry found => ?_⟩)
    -- The processor has looked at this very entry.
    obtain ⟨looked, seen, active, -, mapped, allowed⟩ :=
      refusal?_eq_none.mp (passed offset inside)
    rw [used, Option.some.injEq] at active
    rw [← active, found, Option.some.injEq] at mapped
    rw [mapped]
    exact (PageFlags.contains_or_iff.mp allowed).2

/-- A range without a refused address is used in place. -/
theorem resolveRange_of_granted {id : EnvId} (running : machine.current = some id)
    (used : machine.kernel.memory.active = some space)
    (granted : ∀ offset < length, machine.refusal? write (va + UInt32.ofNat offset) = none) :
    machine.resolveRange write va length = (.ok space, machine) := by
  -- The search for a refused address comes to nothing.
  have passed : machine.firstRefusal write va length = none :=
    firstAddress_of_all fun offset inside => by simp [granted offset inside]
  simp only [resolveRange, running, passed, used]

/-- Where no address of a range is refused, every one of them is mapped. -/
theorem mapped_of_granted (used : machine.kernel.memory.active = some space)
    (granted : ∀ offset < length, machine.refusal? write (va + UInt32.ofNat offset) = none) :
    ∀ offset < length,
      (machine.kernel.memory.entryAt? space (va + UInt32.ofNat offset)).isSome = true := by
  intro offset inside
  -- Among the reasons not to refuse an address is an entry for it.
  obtain ⟨looked, entry, active, -, found, -⟩ := refusal?_eq_none.mp (granted offset inside)
  rw [used, Option.some.injEq] at active
  rw [active, found]
  rfl

/-- A load of a range without a refused address. -/
theorem load_of_granted {id : EnvId} (running : machine.current = some id)
    (used : machine.kernel.memory.active = some space)
    (granted : ∀ offset < length, machine.refusal? false (va + UInt32.ofNat offset) = none) :
    machine.load va length =
      (.ok ((addressRange va length).map (machine.kernel.memory.byteAt space)), machine) := by
  -- Copying fails at unmapped addresses only, and there are none.
  have mapped := mapped_of_granted used granted
  simp only [load, resolveRange_of_granted running used granted, Memory.copyIn_of_mapped mapped]

/-- A store to a range without a refused address. -/
theorem store_of_granted {id : EnvId} {data : List UInt8} (running : machine.current = some id)
    (used : machine.kernel.memory.active = some space) (granted : ∀ offset < data.length,
      machine.refusal? true (va + UInt32.ofNat offset) = none) :
    machine.store va data = (.ok (), { machine with kernel := { machine.kernel with
      memory := (machine.kernel.memory.copyOut space va data).2 } }) := by
  -- Copying fails at unmapped addresses only, and there are none.
  have mapped := mapped_of_granted used granted
  simp only [store, resolveRange_of_granted running used granted, Memory.copyOut_ok mapped]
  rfl

/-- A load that gives bytes was not refused anywhere. -/
theorem load_ok {bytes : List UInt8} (loaded : machine.load va length = (.ok bytes, next)) :
    (∃ space, machine.kernel.memory.active = some space ∧
      bytes = (addressRange va length).map (machine.kernel.memory.byteAt space)) ∧
    next = machine ∧
      ∀ offset < length, machine.refusal? false (va + UInt32.ofNat offset) = none := by
  -- Where nothing is refused everything is mapped, so that reading cannot fail.
  unfold load at loaded
  split at loaded
  · simp at loaded
  · rename_i space after granted
    obtain ⟨rfl, used, passed⟩ := resolveRange_ok granted
    rw [Memory.copyIn_of_mapped (mapped_of_granted used passed)] at loaded
    simp only [Prod.mk.injEq, Except.ok.injEq] at loaded
    exact ⟨⟨space, used, loaded.1.symm⟩, loaded.2.symm, passed⟩

/-- A store that succeeds was not refused anywhere. -/
theorem store_ok {data : List UInt8} (stored : machine.store va data = (.ok (), next)) :
    (∃ space, machine.kernel.memory.active = some space ∧
      next = { machine with kernel := { machine.kernel with
        memory := (machine.kernel.memory.copyOut space va data).2 } }) ∧
      ∀ offset < data.length, machine.refusal? true (va + UInt32.ofNat offset) = none := by
  -- The bytes go to the space that was in use when the range was resolved.
  unfold store at stored
  split at stored
  · simp at stored
  · rename_i space after granted
    obtain ⟨rfl, used, passed⟩ := resolveRange_ok granted
    simp only [Prod.mk.injEq] at stored
    exact ⟨⟨space, used, stored.2.symm⟩, passed⟩

/-- The outcome of an access carries bytes, of which a store has none. -/
theorem store_of_access {data : List UInt8} {result : Except Trapped (List UInt8)}
    (stored : Cpu.access machine (.store va data) = (result, next)) :
    machine.store va data = (result.map fun _ => (), next) := by
  -- To replace the unit by bytes and these by the unit again changes nothing.
  have first := congrArg Prod.fst stored
  have second := congrArg Prod.snd stored
  change ((machine.store va data).1.map fun () => []) = result at first
  refine Prod.ext ?_ second
  change (machine.store va data).1 = result.map fun _ => ()
  rw [← first]
  cases (machine.store va data).1 <;> rfl

/-- What may be written may be read. -/
theorem refusal?_of_write (granted : machine.refusal? true va = none) :
    machine.refusal? false va = none := by
  -- The flags that a write takes are those that a read takes, and one more.
  obtain ⟨space, entry, used, below, found, allowed⟩ := refusal?_eq_none.mp granted
  exact refusal?_eq_none.mpr
    ⟨space, entry, used, below, found, (PageFlags.contains_or_iff.mp allowed).1⟩

/-- A range that faults and leaves its environment running has raised a page fault. -/
theorem resolveRange_upcall {id : EnvId} (running : machine.current = some id)
    (faulted : machine.resolveRange write va length = (.error .upcall, next)) :
    ∃ offset < length, ∃ code,
      next = machine.raise TrapVector.pageFault code (va + UInt32.ofNat offset) ∧
        next.isRunning id = true := by
  -- The address of the fault is the first refused one, which the search has found.
  unfold resolveRange at faulted
  rw [running] at faulted
  dsimp only at faulted
  split at faulted
  · rename_i address refused
    simp only [Prod.mk.injEq, Except.error.injEq] at faulted
    obtain ⟨-, offset, inside, rfl, -⟩ := firstAddress_eq_some refused
    obtain ⟨trapped, rfl⟩ := faulted
    refine ⟨offset, inside, _, rfl, ?_⟩
    -- There is an upcall only if the same environment is running after the trap.
    unfold trappedFor at trapped
    split at trapped
    · assumption
    · simp at trapped
  · split at faulted <;> simp at faulted

end Exokernel.Machine

namespace Exokernel

/-- Every byte that an access uses is below the stack top. -/
def Access.Below : Access → Prop
  | .load va length => ∀ offset < length, va + UInt32.ofNat offset < stackTop
  | .store va data => ∀ offset < data.length, va + UInt32.ofNat offset < stackTop

/-- Ranges are finite, so that every address of them can be looked at. -/
instance (use : Access) : Decidable use.Below :=
  match use with
  | .load va length =>
    inferInstanceAs (Decidable (∀ offset < length, va + UInt32.ofNat offset < stackTop))
  | .store va data =>
    inferInstanceAs (Decidable (∀ offset < data.length, va + UInt32.ofNat offset < stackTop))

/-- A store below the stack top does not come around to its first address again. -/
theorem Access.Below.length_le {va : Address} {data : List UInt8}
    (below : (Access.store va data).Below) : data.length ≤ addressCount := by
  by_contra long
  -- A longer one would reach the stack top itself on its way around.
  have bound := (stackTop - va).toNat_lt
  have count : addressCount = 4294967296 := rfl
  have reached := below (stackTop - va).toNat (by omega)
  rw [add_ofNat_sub] at reached
  exact UInt32.lt_irrefl _ reached

/-- An access uses the byte at an address. -/
def Access.Uses : Access → Address → Prop
  | .load va length, address => ∃ offset < length, address = va + UInt32.ofNat offset
  | .store va data, address => ∃ offset < data.length, address = va + UInt32.ofNat offset

/-- An access below the top of the stack uses addresses below it. -/
theorem Access.Below.lt_of_uses {use : Access} {address : Address} (below : use.Below)
    (used : use.Uses address) : address < stackTop := by
  -- The address is in the range that was compared.
  cases use with
  | load va length =>
    obtain ⟨offset, inside, rfl⟩ := used
    exact below offset inside
  | store va data =>
    obtain ⟨offset, inside, rfl⟩ := used
    exact below offset inside

/-- An access that faults and leaves its environment running has raised a page fault. -/
theorem Machine.access_upcall {machine next : Machine} {id : EnvId} {use : Access}
    (running : machine.current = some id)
    (faulted : Cpu.access machine use = (.error .upcall, next)) : ∃ address, use.Uses address ∧
      ∃ code, next = machine.raise TrapVector.pageFault code address ∧
        next.isRunning id = true := by
  -- Reading and writing begin in the same way, with the search for a refused address.
  cases use with
  | load va length =>
    change machine.load va length = _ at faulted
    unfold Machine.load at faulted
    split at faulted
    · rename_i trapped after refused
      simp only [Prod.mk.injEq, Except.error.injEq] at faulted
      obtain ⟨rfl, rfl⟩ := faulted
      obtain ⟨offset, inside, code, raised⟩ := resolveRange_upcall running refused
      exact ⟨_, ⟨offset, inside, rfl⟩, code, raised⟩
    · split at faulted <;> simp at faulted
  | store va data =>
    have stored : machine.store va data = (.error .upcall, next) := store_of_access faulted
    have result := congrArg Prod.fst stored
    obtain rfl := congrArg Prod.snd stored
    unfold Machine.store at result ⊢
    split at result
    · rename_i trapped after refused
      simp only [Except.error.injEq] at result
      subst result
      obtain ⟨offset, inside, code, raised⟩ := resolveRange_upcall running refused
      exact ⟨_, ⟨offset, inside, rfl⟩, code, raised⟩
    · rename_i space after granted
      -- A store that is granted ends with another error, if with any.
      cases outcome : (after.kernel.memory.copyOut space va data).1 <;>
        simp [outcome, Except.mapError] at result

/-- An access that is made, or faults, is one of an environment that runs. -/
theorem Machine.current_of_access {machine next : Machine} {use : Access}
    {result : Except Trapped (List UInt8)} (accessed : Cpu.access machine use = (result, next))
    (found : result ≠ .error .descheduled) : ∃ id, machine.current = some id := by
  -- While nobody runs, both kinds of access end at once, with the processor lost.
  refine Option.ne_none_iff_exists'.mp fun idle => found ?_
  refine (congrArg Prod.fst accessed).symm.trans ?_
  cases use with
  | load va length =>
    change (machine.load va length).1 = _
    simp only [Machine.load, resolveRange, idle]
  | store va data =>
    change (machine.store va data).1.map _ = _
    simp only [Machine.store, resolveRange, idle, Except.map]

/-- An access that succeeds leaves the processor alone. -/
theorem Machine.access_ok {machine next : Machine} {use : Access} {bytes : List UInt8}
    (accessed : Cpu.access machine use = (.ok bytes, next)) : next.cpu = machine.cpu := by
  -- A load changes nothing at all, and a store changes memory.
  cases use with
  | load va length =>
    change machine.load va length = _ at accessed
    rw [(load_ok accessed).2.1]
  | store va data =>
    obtain ⟨⟨space, -, written⟩, -⟩ := store_ok (store_of_access accessed)
    rw [written]

end Exokernel
