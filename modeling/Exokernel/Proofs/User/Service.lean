import Exokernel.Proofs.User.Upcalls

/-! Faults that the copying handler serves, one inside the other, up to the access itself. -/

namespace Exokernel

open Memory (Spares InReturnSlot)

namespace Program

variable {η : Type} {handlers : Handlers η} {onWrite : η} {attempts : Nat}
  {before middle after : UserState η Machine} {slot : Slot} {space : SpaceHandle}
  {stack scratch place : Address}

/-- The page of the stack on which fault handlers run. -/
abbrev exceptionStack : Address := exceptionStackTop - pageSize

/-- An environment with the copying handler runs, in a private space and on a known stack. -/
structure Ready (onWrite : η) (state : UserState η Machine) (slot : Slot) (space : SpaceHandle)
    (stack : Address) : Prop where
  /-- The environment runs. -/
  runs : state.cpu.Runs slot space
  /-- Its stack pointer. -/
  stack_eq : state.cpu.context.esp = stack
  /-- Its handler. -/
  handled : state.library.handler = some onWrite
  /-- All permissions are ones that user code may ask for. -/
  permitted : state.cpu.kernel.memory.Permitted
  /-- Only the space itself can write to its pages. -/
  isolated : state.cpu.kernel.memory.Private space
  /-- A handler runs on a page that it can write. -/
  mounted : pageNumber stack = pageNumber exceptionStack → ∃ entry,
    state.cpu.kernel.memory.entryAt? space exceptionStack = some entry ∧
      entry.flags.contains .writable = true

/-- What serving faults does: private spaces are spared, and the environment goes on as it was. -/
structure Serves (before after : UserState η Machine) (slot : Slot) (space : SpaceHandle)
    (scratch : Address) : Prop extends Continues before after slot space where
  /-- Private spaces keep what they hold, and stay private. -/
  spares : Spares before.cpu.kernel.memory after.cpu.kernel.memory scratch
  /-- Permissions stay ones that user code may ask for. -/
  permitted : after.cpu.kernel.memory.Permitted
  /-- Nothing is mapped anew above the stack top. -/
  above : ∀ va, stackTop ≤ va →
    after.cpu.kernel.memory.entryAt? space va = before.cpu.kernel.memory.entryAt? space va

/-- A fault is served by nothing if there is nothing to do. -/
theorem Serves.refl (runs : before.cpu.Runs slot space)
    (permitted : before.cpu.kernel.memory.Permitted) (scratch : Address) :
    Serves before before slot space scratch where
  runs := runs
  outline_eq := rfl
  library_eq := rfl
  spares := .refl _ _
  permitted := permitted
  above _ _ := rfl

/-- Services follow one another. -/
theorem Serves.trans (first : Serves before middle slot space scratch)
    (second : Serves middle after slot space scratch) : Serves before after slot space scratch where
  toContinues := first.toContinues.trans second.toContinues
  spares := first.spares.trans second.spares
  permitted := second.permitted
  above va high := (second.above va high).trans (first.above va high)

/-- The stack pointer of an environment that goes on. -/
theorem Continues.context_esp (continues : Continues before after slot space)
    (runs : before.cpu.Runs slot space) : after.cpu.context.esp = before.cpu.context.esp := by
  -- What is shown of a slot includes where its stack is.
  have outlines := congrArg Outline.stack (congrFun continues.outline_eq slot)
  rwa [continues.runs.outline_eq, runs.outline_eq] at outlines

/-- Whoever is ready for a fault is so after one has been served. -/
theorem Ready.serves (ready : Ready onWrite before slot space stack)
    (serves : Serves before after slot space scratch) :
    Ready onWrite after slot space stack where
  runs := serves.runs
  stack_eq := (serves.context_esp ready.runs).trans ready.stack_eq
  handled := serves.library_eq ▸ ready.handled
  permitted := serves.permitted
  isolated := (serves.spares space ready.isolated).1
  -- The stack for handlers is above everything that a service changes.
  mounted here := by
    rw [serves.above exceptionStack (by decide)]
    exact ready.mounted here

/-- Copying a page below the stack top serves the fault that it is for. -/
theorem serves_copyOnWrite {fault : FaultRecord} (runs : before.cpu.Runs slot space)
    (permitted : before.cpu.kernel.memory.Permitted)
    (vacant : before.cpu.kernel.memory.entryAt? space copyPage = none)
    (below : fault.address < stackTop)
    (ends : Ends (reply handlers attempts) (copyOnWrite fault) before (.ok ()) after)
    (scratch : Address) : Serves before after slot space scratch := by
  -- The page of the fault is not the copy page, where nothing was mapped.
  obtain ⟨continues, frame, free, installs, same⟩ := ends_copyOnWrite runs permitted vacant ends
  have elsewhere : pageNumber copyPage ≠ pageNumber (pageBase fault.address) := by
    intro onCopy
    have mapped := (same copyPage onCopy).1
    rw [vacant] at mapped
    simp at mapped
  refine ⟨continues, installs.spares runs.coupled.settled.memory free elsewhere same scratch,
    installs.permitted permitted ?_, fun va high => installs.entryAt?_eq (.inr ?_)⟩
  · rintro entry ⟨⟩
    exact (by decide : PageFlags.readWrite.isUserPermission = true)
  · rw [pageNumber_pageBase]
    exact Ne.symm (Memory.pageNumber_ne_of_above below high)

/-- The record of a fault on this stack pointer fits on the page for handlers. -/
def Shallow (stack : Address) : Prop :=
  ∃ depth, depth + 52 ≤ 4096 ∧ recordAddress stack = exceptionStack + UInt32.ofNat depth

/-- A record of a shallow fault is on one page. -/
theorem Shallow.page {offset : Nat} (shallow : Shallow stack) (inside : offset < 52) :
    pageNumber (recordAddress stack + UInt32.ofNat offset) = pageNumber exceptionStack := by
  obtain ⟨depth, room, place⟩ := shallow
  rw [place, UInt32.add_assoc, ← UInt32.ofNat_add]
  -- The record ends before the page does.
  exact pageNumber_add_offset (by decide) (by omega)

/-- A page fault that is delivered leaves its environment ready to handle it. -/
theorem Ready.faulted {record : FaultRecord} (ready : Ready onWrite before slot space stack)
    (shallow : Shallow stack) (faulted : Faulted before after slot space record)
    (scratch : Address) : Ready onWrite after slot space (recordAddress stack) ∧
      Spares before.cpu.kernel.memory after.cpu.kernel.memory scratch ∧
      (∀ other va, after.cpu.kernel.memory.entryAt? other va =
        before.cpu.kernel.memory.entryAt? other va) := by
  have onRecord := faulted.stack_eq
  obtain ⟨-, checked, recorded, runs, -, library⟩ := faulted
  rw [ready.stack_eq] at checked recorded onRecord
  have entries :=
    before.cpu.kernel.memory.entryAt?_copyOut space (recordAddress stack) record.encode
  rw [recorded] at entries
  have length : record.encode.length = 52 := record.length_encode
  -- The environment can write to every byte of its record.
  have permitted (offset : Nat) (inside : offset < 52) :=
    Memory.userCheck_record_iff.mp checked offset inside
  have short : record.encode.length ≤ addressCount := by rw [length]; decide
  have writes (offset : Nat) (inside : offset < record.encode.length) (target : PageEntry)
      (there : before.cpu.kernel.memory.entryAt? space
        (recordAddress stack + UInt32.ofNat offset) = some target) :
      target.flags.contains .writable = true :=
    (PageFlags.contains_or_iff.mp ((permitted offset (length ▸ inside)).writable there)).2
  -- The record lies on the exception stack, and a page of its own is not below it.
  have spares : Spares before.cpu.kernel.memory after.cpu.kernel.memory scratch := by
    refine Memory.spares_copyOut ready.runs.coupled.settled.memory short recorded writes
      fun other below inside => ?_
    rw [length] at inside
    have page := shallow.page inside
    rw [add_ofNat_sub] at page
    exact absurd page (Memory.pageNumber_ne_of_above below (by decide))
  refine ⟨?_, spares, entries⟩
  refine
    { runs := runs
      stack_eq := onRecord
      handled := by rw [library, ready.handled]
      permitted := fun other va entry found => ?_
      isolated := (spares space ready.isolated).1
      mounted := fun _ => ?_ }
  · rw [entries] at found
    exact ready.permitted other va entry found
  · -- The exception stack is mapped for writing, since the record was put there.
    have first := permitted 0 (by decide)
    obtain ⟨entry, found⟩ := Option.isSome_iff_exists.mp first.isSome
    have writes := (PageFlags.contains_or_iff.mp (first.writable found)).2
    rw [Memory.entryAt?_congr (shallow.page (by decide)), ← entries] at found
    exact ⟨entry, found, writes⟩

/-- A store in place serves whoever can do without the bytes that it replaces. -/
theorem serves_store (runs : before.cpu.Runs slot space)
    (permitted : before.cpu.kernel.memory.Permitted) {va : Address} {data bytes : List UInt8}
    (short : data.length ≤ addressCount)
    (stored : Cpu.access before.cpu (.store va data) = (.ok bytes, after.cpu))
    (library : after.library = before.library)
    (reach : ∀ other < stackTop, (other - va).toNat < data.length → InReturnSlot scratch other) :
    Serves before after slot space scratch := by
  -- Every byte that is written was looked at first, and may be written.
  obtain ⟨written, again, outline, granted⟩ := runs.store_ok stored
  have entries := before.cpu.kernel.memory.entryAt?_copyOut space va data
  rw [written] at entries
  refine ⟨⟨again, outline, library⟩, ?_, fun other place entry found => ?_, fun place _ =>
    entries space place⟩
  · exact Memory.spares_copyOut runs.coupled.settled.memory short written
      (fun offset inside _ => runs.writable (granted offset inside)) reach
  · exact permitted other place entry (entries other place ▸ found)

/-- An access ends in place, once the faults on the way to it have been served. -/
def EndsInPlace (handlers : Handlers η) (onWrite : η) (attempts : Nat) (slot : Slot)
    (space : SpaceHandle) (scratch stack : Address) (use : Access) : Prop :=
  -- The handlers' own effects are behind the access, which then finds nothing to refuse.
  ∀ (before after : UserState η Machine) (bytes : List UInt8),
    Ready onWrite before slot space stack →
    serveAccess handlers attempts use before = some (.ok bytes, after) →
    ∃ middle, Serves before middle slot space scratch ∧
      Cpu.access middle.cpu use = (.ok bytes, after.cpu) ∧ after.library = middle.library

/-- The registered handler has dealt with the fault. -/
theorem ends_dispatchFault {fault : FaultRecord} (handled : before.library.handler = some onWrite)
    (ends : Ends (reply handlers attempts) (dispatchFault handlers fault) before (.ok ()) after) :
    Ends (reply handlers attempts) (handlers onWrite fault) before (.ok ()) after := by
  -- A handler that fails would have ended the environment.
  rw [Ends, run_dispatchFault handled] at ends
  exact (ends_tryCatch fun failure middle => not_ends_exit failure).mp ends

/-- Serving a fault spares private spaces, and ends with the registers as they were. -/
theorem serves_serviceFault {record : FaultRecord} (handles : handlers onWrite = copyOnWrite)
    (ready : Ready onWrite before slot space stack) (shallow : Shallow stack)
    (faulted : Faulted before middle slot space record) (below : record.address < stackTop)
    (inner : ∀ data, data.length = 4 → EndsInPlace handlers onWrite attempts slot space scratch
      (recordAddress stack) (.store (stack - 4) data))
    (free : ∀ va < stackTop, (va - (stack - 4)).toNat < 4 → InReturnSlot scratch va)
    (ends : Ends (reply handlers attempts) (serviceFault handlers) middle (.ok ()) after) :
    Serves before after slot space scratch := by
  obtain ⟨begun, spared, entries⟩ := ready.faulted shallow faulted scratch
  -- First the handler copies the page.
  obtain ⟨copied, dispatched, returns⟩ := faulted.ends_serviceFault ready.runs ends
  have copying := ends_dispatchFault begun.handled dispatched
  rw [handles] at copying
  have first := serves_copyOnWrite begun.runs begun.permitted begun.isolated.vacant below copying
    scratch
  -- Then the return address is stored below the stack, which may take a copy of its own.
  have stackAt : record.context.esp = stack := by rw [faulted.context_eq, ← ready.stack_eq]
  obtain ⟨⟨⟩, stored, storing, resumes⟩ := ends_bind.mp returns
  rw [stackAt] at storing resumes
  obtain ⟨answer, served⟩ := ends_store.mp storing
  obtain ⟨settled, second, accessed, library⟩ :=
    inner _ rfl copied stored answer (begun.serves first) served
  have short : (wordBytes record.context.eip).length ≤ addressCount := by
    show 4 ≤ 4294967296
    decide
  have third : Serves settled stored slot space scratch :=
    serves_store second.runs second.permitted short accessed library free
  have served := first.trans (second.trans third)
  -- The return goes through the word that has just been stored.
  have last := ends_return third.runs (second.runs.readable_of_stored accessed) resumes
  have kernel := last.kernel_eq
  have back : stack - 4 + 4 = stack := UInt32.sub_add_cancel stack 4
  have stackHere : (before.cpu.outline slot).stack = stack := by
    rw [ready.runs.outline_eq, ready.stack_eq]
  refine
    { runs := last.runs
      outline_eq := ?_
      library_eq := by rw [last.library_eq, served.library_eq, faulted.library_eq]
      spares := by rw [kernel]; exact spared.trans served.spares
      permitted := by rw [kernel]; exact served.permitted
      above := fun va high => by rw [kernel, served.above va high, entries] }
  funext other
  rw [last.outline_eq, served.outline_eq, faulted.outline_eq, faulted.outline_eq]
  simp only [if_true, back]
  by_cases here : other = slot
  · simp only [here, if_true]
    rw [← stackHere]
  · simp only [here, if_false]

/-- A fault below the stack top, after which the environment still runs, is with its handler. -/
theorem Ready.faulted_of_upcall (ready : Ready onWrite before slot space stack) {use : Access}
    (below : use.Below) {machine : Machine}
    (trapped : Cpu.access before.cpu use = (.error .upcall, machine)) :
    ∃ record : FaultRecord, record.address < stackTop ∧
      Faulted before { before with cpu := machine } slot space record := by
  -- The record is of an address that the access uses.
  obtain ⟨record, used, faulted⟩ := Faulted.of_upcall ready.runs trapped
  exact ⟨record, below.lt_of_uses used, faulted⟩

/-- An access ends in place if a handler on its stack can always store its return address. -/
theorem endsInPlace_of_inner (handles : handlers onWrite = copyOnWrite) (shallow : Shallow stack)
    (free : ∀ va < stackTop, (va - (stack - 4)).toNat < 4 → InReturnSlot scratch va)
    (inner : ∀ attempts data, data.length = 4 → EndsInPlace handlers onWrite attempts slot space
      scratch (recordAddress stack) (.store (stack - 4) data))
    {use : Access} (below : use.Below) :
    EndsInPlace handlers onWrite attempts slot space scratch stack use := by
  -- Induct on the attempts: a try that faults is served, and the next one has fewer attempts.
  induction attempts with
  | zero =>
    intro before after bytes ready served
    simp [serveAccess] at served
  | succ attempts ih =>
    intro before after bytes ready served
    simp only [serveAccess] at served
    split at served
    · rename_i answer cpu granted
      simp only [Option.some.injEq, Prod.mk.injEq, Except.ok.injEq] at served
      obtain ⟨rfl, rfl⟩ := served
      exact ⟨before, .refl ready.runs ready.permitted scratch, granted, rfl⟩
    · simp at served
    · rename_i cpu trapped
      obtain ⟨record, low, faulted⟩ := ready.faulted_of_upcall below trapped
      split at served
      · simp at served
      · simp at served
      · rename_i again ends
        have first := serves_serviceFault handles ready shallow faulted low (inner attempts) free
          ends
        obtain ⟨middle, second, accessed, library⟩ :=
          ih again after bytes (ready.serves first) served
        exact ⟨middle, first.trans second, accessed, library⟩

/-- A handler on the page for handlers stores its return address there without a fault. -/
theorem endsInPlace_store {data : List UInt8} (length : data.length = 4)
    (onPage : pageNumber stack = pageNumber exceptionStack)
    (inside : ∀ offset < 4, pageNumber (place + UInt32.ofNat offset) = pageNumber exceptionStack) :
    EndsInPlace handlers onWrite attempts slot space scratch stack (.store place data) := by
  -- All bytes are on the page for handlers, so that the first try succeeds.
  intro before after bytes ready served
  obtain ⟨entry, mapped, permits⟩ := ready.mounted onPage
  have granted (offset : Nat) (within : offset < data.length) :
      before.cpu.refusal? true (place + UInt32.ofNat offset) = none := by
    rw [← Memory.entryAt?_congr (inside offset (length ▸ within))] at mapped
    exact ready.runs.granted ready.permitted mapped fun _ => permits
  have stored := Machine.store_of_granted ready.runs.current ready.runs.active granted
  have access : Cpu.access before.cpu (.store place data) =
      (.ok [], { before.cpu with kernel := { before.cpu.kernel with
        memory := (before.cpu.kernel.memory.copyOut space place data).2 } }) := by
    simp only [Cpu.access, stored]
    rfl
  have outcome := serveAccess_of_ok access served
  simp only [Prod.mk.injEq, Except.ok.injEq] at outcome
  obtain ⟨rfl, rfl⟩ := outcome
  exact ⟨before, .refl ready.runs ready.permitted scratch, access, rfl⟩

/-- The word below a stack pointer is on the normal stack or somewhere below it. -/
def ReturnsBelow (stack : Address) : Prop :=
  ∀ offset < 4, stack - 4 + UInt32.ofNat offset < stackTop

/-- A stack that returns below the stack top does not reach past it. -/
theorem ReturnsBelow.toNat_le (low : ReturnsBelow stack) : stack.toNat ≤ 4005552128 := by
  -- The last byte of the word is the one right below the stack pointer.
  have last := UInt32.lt_iff_toNat_lt.mp (low 3 (by decide))
  have top : stackTop.toNat = 4005552128 := rfl
  have three : (UInt32.ofNat 3).toNat = 3 := rfl
  have four : (4 : Word).toNat = 4 := rfl
  rw [top, UInt32.toNat_add, UInt32.toNat_sub, three, four] at last
  have bound := stack.toNat_lt
  omega

/-- A stack that returns below the stack top is not the page for handlers. -/
theorem ReturnsBelow.page_ne (low : ReturnsBelow stack) :
    pageNumber stack ≠ pageNumber exceptionStack := by
  -- The normal stack ends below the page for handlers.
  intro same
  have base : exceptionStack.toNat = 4005556224 := rfl
  rw [pageNumber_eq_iff, base] at same
  have bound := low.toNat_le
  omega

/-- A fault on the stack below is recorded at the top of the stack for handlers. -/
theorem ReturnsBelow.recordAddress_eq (low : ReturnsBelow stack) :
    recordAddress stack = exceptionStackTop - FaultRecord.size := by
  -- Records are stacked only under a stack pointer that is on the page for handlers.
  refine if_neg fun onPage => ?_
  have first := UInt32.le_iff_toNat_le.mp onPage.1
  have base : exceptionStack.toNat = 4005556224 := rfl
  rw [base] at first
  have bound := low.toNat_le
  omega

/-- An access below the stack top ends in place, whatever copies it takes. -/
theorem endsInPlace (handles : handlers onWrite = copyOnWrite) (low : ReturnsBelow stack)
    {use : Access} (below : use.Below) :
    EndsInPlace handlers onWrite attempts slot space stack stack use := by
  have outer := low.recordAddress_eq
  have inner : recordAddress (exceptionStackTop - FaultRecord.size) =
      exceptionStackTop - FaultRecord.size - (4 + FaultRecord.size) := by decide
  refine endsInPlace_of_inner handles ⟨4044, by decide, by rw [outer]; decide⟩ (fun va _ => id)
    (fun attempts data length => ?_) below
  -- The word below a normal stack may be on a shared page, so that storing there faults again.
  rw [outer]
  refine endsInPlace_of_inner handles ⟨3988, by decide, by rw [inner]; decide⟩
    (fun va low near => ?_)
    (fun attempts data length => ?_) (fun offset inside => low offset (length ▸ inside))
  · have page : pageNumber (exceptionStack + UInt32.ofNat
        (4040 + (va - (exceptionStackTop - FaultRecord.size - 4)).toNat)) =
          pageNumber exceptionStack := pageNumber_add_offset (by decide) (by omega)
    rw [UInt32.ofNat_add, ← UInt32.add_assoc] at page
    change pageNumber (exceptionStackTop - FaultRecord.size - 4 + _) = _ at page
    rw [add_ofNat_sub] at page
    exact absurd page (Memory.pageNumber_ne_of_above low (by decide))
  · rw [inner]
    exact endsInPlace_store length (by decide) (by decide)

end Program

end Exokernel
