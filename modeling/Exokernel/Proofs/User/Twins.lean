import Exokernel.Proofs.AccessByPages
import Exokernel.Proofs.Reachable
import Exokernel.Proofs.User.Fork
import Exokernel.User.Policy

/-! After a fork, parent and child use their memory as if each had a copy of its own. -/

namespace Exokernel

open Memory (InReturnSlot Keeps Private)

/-- One of the two environments that go on after a fork. -/
inductive Twin where
  /-- The one that forked. -/
  | parent
  /-- The new one. -/
  | child
  deriving DecidableEq

/-- What belongs to one of the two, by what belongs to each. -/
def Twin.pick {α : Type} (parent child : α) : Twin → α
  | .parent => parent
  | .child => child

/-- Something that happens while parent and child go on. -/
inductive TwinEvent where
  /-- The timer interrupts whoever runs. -/
  | timer
  /-- One of the two uses memory, and the call gives bytes back. -/
  | uses (twin : Twin) (use : Access) (bytes : List UInt8)

/-- The byte that an environment has at an address after an event, by the one it had before. -/
def TwinEvent.update (twin : Twin) (place : Address) (byte : UInt8) : TwinEvent → UInt8
  -- A store that is too short to reach the address keeps its byte.
  | .uses who (.store va data) _ =>
    if who = twin then data[(place - va).toNat]?.getD byte else byte
  | _ => byte

/-- What an environment stored last at an address, or else the byte that was there at first. -/
def TwinEvent.latest (twin : Twin) (place : Address) (first : UInt8)
    (events : List TwinEvent) : UInt8 :=
  events.foldl (update twin place) first

/-- What an address had last, after one more event. -/
theorem TwinEvent.latest_concat (twin : Twin) (place : Address) (first : UInt8)
    (events : List TwinEvent) (event : TwinEvent) :
    latest twin place first (events ++ [event]) =
      event.update twin place (latest twin place first events) := by
  -- The fold takes the last event last.
  rw [latest, List.foldl_append]
  rfl

/--
Each load gives for each byte what its environment stored there last, or what was there at first.

The word below the stack pointer is left out, through which fault handlers return.
-/
def TwinEvent.Copied (origin : Memory) (home : SpaceHandle) (stack : Address)
    (events : List TwinEvent) : Prop :=
  -- Only events before the load count, and among them only those of its own environment.
  ∀ before twin va length bytes after,
    events = before ++ .uses twin (.load va length) bytes :: after →
    ∀ offset < length, ¬InReturnSlot stack (va + UInt32.ofNat offset) →
      (origin.entryAt? home (va + UInt32.ofNat offset)).isSome = true ∧
      bytes[offset]? = some (latest twin (va + UInt32.ofNat offset)
        (origin.byteAt home (va + UInt32.ofNat offset)) before)

/-- Parent and child on one machine, each with its own state of the library. -/
structure Twins (η : Type) where
  /-- The machine. -/
  machine : Machine
  /-- What the library keeps for each of them. -/
  library : Twin → LibraryState η

namespace Twins

variable {η : Type} {handlers : Handlers η} {ids : Twin → EnvId}

/-- What one event makes of both; memory below the stack top is used, and every call succeeds. -/
inductive Step (handlers : Handlers η) (ids : Twin → EnvId) :
    TwinEvent → Twins η → Twins η → Prop where
  | timer (twins : Twins η) :
      Step handlers ids .timer twins { twins with machine := twins.machine.timerInterrupt }
  | uses {twins : Twins η} {twin : Twin} {use : Access} {bytes : List UInt8} {attempts : Nat}
      {after : UserState η Machine} (running : twins.machine.current = some (ids twin))
      (below : use.Below)
      (served : serveAccess handlers attempts use ⟨twins.library twin, twins.machine⟩ =
        some (.ok bytes, after)) :
      Step handlers ids (.uses twin use bytes) twins
        ⟨after.cpu, Function.update twins.library twin after.library⟩

/-- What events make of both, one after another. -/
def Leads (handlers : Handlers η) (ids : Twin → EnvId) :
    List TwinEvent → Twins η → Twins η → Prop
  -- Every event is a step of both together.
  | [], twins, last => last = twins
  | event :: rest, twins, last =>
    ∃ next, Step handlers ids event twins next ∧ Leads handlers ids rest next last

/-- Events in the middle happen in a state that the events before them lead to. -/
theorem leads_append {before after : List TwinEvent} {twins last : Twins η} :
    Leads handlers ids (before ++ after) twins last ↔ ∃ middle,
      Leads handlers ids before twins middle ∧ Leads handlers ids after middle last := by
  induction before generalizing twins with
  | nil => simp [Leads]
  | cons event rest ih =>
    -- The first event is the same on both sides.
    simp only [List.cons_append, Leads, ih]
    constructor
    · rintro ⟨next, step, middle, early, late⟩
      exact ⟨middle, ⟨next, step, early⟩, late⟩
    · rintro ⟨middle, ⟨next, step, early⟩, late⟩
      exact ⟨next, step, middle, early, late⟩

/--
What events make of both, with a bound on the tries; they must give the bytes that they say.

The processor is left open, so that accesses may be made in any way that is known to be the same.
-/
def replay [Cpu Machine] (handlers : Handlers η) (ids : Twin → EnvId) (attempts : Nat) :
    List TwinEvent → Twins η → Option (Twins η)
  | [], twins => some twins
  | .timer :: rest, twins =>
    replay handlers ids attempts rest { twins with machine := twins.machine.timerInterrupt }
  -- Only the library of whoever makes an access may change with it.
  | .uses twin use bytes :: rest, twins =>
    if twins.machine.current = some (ids twin) ∧ use.Below then
      match serveAccess handlers attempts use ⟨twins.library twin, twins.machine⟩ with
      | some (.ok given, after) =>
        if given = bytes then
          replay handlers ids attempts rest
            ⟨after.cpu, Function.update twins.library twin after.library⟩
        else none
      | _ => none
    else none

/-- What can be replayed can happen. -/
theorem leads_of_replay {attempts : Nat} {events : List TwinEvent} {twins last : Twins η}
    (replayed : replay handlers ids attempts events twins = some last) :
    Leads handlers ids events twins last := by
  -- Each event that is replayed is a step.
  induction events generalizing twins with
  | nil =>
    rw [replay, Option.some.injEq] at replayed
    exact replayed.symm
  | cons event rest ih =>
    cases event with
    | timer => exact ⟨_, .timer twins, ih replayed⟩
    | uses twin use bytes =>
      rw [replay] at replayed
      split at replayed
      · rename_i allowed
        split at replayed
        · rename_i given after served
          split at replayed
          · rename_i same
            exact ⟨_, .uses allowed.1 allowed.2 (same ▸ served), ih replayed⟩
          · simp at replayed
        · simp at replayed
      · simp at replayed

variable {onWrite : η} {origin : Memory} {home : SpaceHandle} {stack : Address}
  {spaces : Twin → SpaceHandle} {past : List TwinEvent} {twins next : Twins η} {twin : Twin}

/--
Parent and child hold what the parent held at the fork, but for what each has stored since.

The word below the stack pointer is left out, through which fault handlers return.
-/
structure Holds (onWrite : η) (origin : Memory) (home : SpaceHandle) (stack : Address)
    (ids : Twin → EnvId) (spaces : Twin → SpaceHandle) (past : List TwinEvent)
    (twins : Twins η) : Prop where
  /-- Processor and kernel fit together. -/
  coupled : twins.machine.Coupled
  /-- Both have their own space, and the stack pointer of the fork. -/
  outline_eq : ∀ twin, twins.machine.outline (ids twin).slot = ⟨ids twin, some (spaces twin), stack⟩
  /-- Both have the copying handler. -/
  handled : ∀ twin, (twins.library twin).handler = some onWrite
  /-- All permissions are ones that user code may ask for. -/
  permitted : twins.machine.kernel.memory.Permitted
  /-- Nobody else can write to the pages of either. -/
  isolated : ∀ twin, twins.machine.kernel.memory.Private (spaces twin)
  /-- What a space maps was mapped at the fork, and has the bytes of then or stored since. -/
  bytes : ∀ twin, ∀ va < stackTop, ∀ entry,
    twins.machine.kernel.memory.entryAt? (spaces twin) va = some entry →
      (origin.entryAt? home va).isSome = true ∧ (¬InReturnSlot stack va →
        twins.machine.kernel.memory.byteAt (spaces twin) va =
          TwinEvent.latest twin va (origin.byteAt home va) past)

namespace Holds

/-- The timer changes nothing of what both hold. -/
theorem timer (holds : Holds onWrite origin home stack ids spaces past twins) :
    Holds onWrite origin home stack ids spaces (past ++ [.timer])
      { twins with machine := twins.machine.timerInterrupt } := by
  -- The timer decides who runs and whose space is in use, and nothing else.
  obtain ⟨coupled, outline, active, memory⟩ := holds.coupled.timerInterrupt
  refine
    { coupled := coupled
      outline_eq := fun twin => ?_
      handled := holds.handled
      permitted := ?_
      isolated := fun twin => ?_
      bytes := fun twin va below entry found => ?_ }
  · rw [outline, holds.outline_eq]
  · rw [memory]
    exact holds.permitted
  · rw [memory]
    exact (holds.isolated twin).congr fun _ _ => rfl
  · simp only [memory] at found ⊢
    rw [TwinEvent.latest_concat]
    exact holds.bytes twin va below entry found

/-- Whoever uses memory is ready for the faults on the way. -/
theorem ready (holds : Holds onWrite origin home stack ids spaces past twins)
    (low : Program.ReturnsBelow stack) (running : twins.machine.current = some (ids twin)) :
    Program.Ready onWrite ⟨twins.library twin, twins.machine⟩ (ids twin).slot (spaces twin)
      stack := by
  -- Whoever runs under an id runs in its slot, with the space and the stack that it had.
  have runs : twins.machine.Runs (ids twin).slot (spaces twin) :=
    holds.coupled.runs_of_current running (congrArg Outline.id (holds.outline_eq twin))
      (congrArg Outline.space (holds.outline_eq twin))
  have stack_eq := congrArg Outline.stack (holds.outline_eq twin)
  rw [runs.outline_eq] at stack_eq
  refine
    { runs := runs
      stack_eq := stack_eq
      handled := holds.handled twin
      permitted := holds.permitted
      isolated := holds.isolated twin
      mounted := fun onPage => absurd onPage low.page_ne }

/-- Serving the faults of an access keeps what both hold, and then the access is made in place. -/
theorem served (holds : Holds onWrite origin home stack ids spaces past twins)
    (handles : handlers onWrite = Program.copyOnWrite) (low : Program.ReturnsBelow stack)
    {use : Access} {bytes : List UInt8} {attempts : Nat} {after : UserState η Machine}
    (running : twins.machine.current = some (ids twin)) (below : use.Below)
    (served : serveAccess handlers attempts use ⟨twins.library twin, twins.machine⟩ =
      some (.ok bytes, after)) :
    ∃ middle : Machine,
      Holds onWrite origin home stack ids spaces past { twins with machine := middle } ∧
      middle.Runs (ids twin).slot (spaces twin) ∧
      Cpu.access middle use = (.ok bytes, after.cpu) ∧ after.library = twins.library twin := by
  obtain ⟨middle, serves, accessed, library⟩ :=
    Program.endsInPlace handles low below _ _ _ (holds.ready low running) served
  refine ⟨middle.cpu, ?_, serves.runs, accessed, library.trans serves.library_eq⟩
  refine
    { coupled := serves.runs.coupled
      outline_eq := fun other => ?_
      handled := holds.handled
      permitted := serves.permitted
      isolated := fun other => (serves.spares _ (holds.isolated other)).1
      bytes := fun other va low entry found => ?_ }
  · rw [serves.outline_eq, holds.outline_eq]
  · -- Each page was mapped before, with the same bytes.
    obtain ⟨mapped, same⟩ := (serves.spares _ (holds.isolated other)).2 va low entry found
    obtain ⟨before, foundBefore⟩ := Option.isSome_iff_exists.mp mapped
    obtain ⟨atFork, stored⟩ := holds.bytes other va low before foundBefore
    exact ⟨atFork, fun outside => (same outside).trans (stored outside)⟩

/-- A load gives for each byte what its environment stored there last, or what was there. -/
theorem load_eq (holds : Holds onWrite origin home stack ids spaces past twins)
    (handles : handlers onWrite = Program.copyOnWrite) (low : Program.ReturnsBelow stack)
    {va : Address} {length : Nat} {bytes : List UInt8}
    (step : Step handlers ids (.uses twin (.load va length) bytes) twins next) {offset : Nat}
    (inside : offset < length) (outside : ¬InReturnSlot stack (va + UInt32.ofNat offset)) :
    (origin.entryAt? home (va + UInt32.ofNat offset)).isSome = true ∧
      bytes[offset]? = some (TwinEvent.latest twin (va + UInt32.ofNat offset)
        (origin.byteAt home (va + UInt32.ofNat offset)) past) := by
  cases step with
  | uses running below served =>
    obtain ⟨middle, still, runs, accessed, -⟩ := holds.served handles low running below served
    obtain ⟨-, contents, granted⟩ := runs.load_ok accessed
    -- The byte is on a page that is mapped, so it is the one that the environment holds.
    obtain ⟨used, entry, active, -, found, -⟩ :=
      Machine.refusal?_eq_none.mp (granted offset inside)
    rw [runs.active, Option.some.injEq] at active
    subst active
    obtain ⟨atFork, stored⟩ := still.bytes twin _ (below offset inside) entry found
    exact ⟨atFork, by rw [contents, Memory.getElem?_addressRange inside, ← stored outside]⟩

/-- An event leaves both with what they held, but for what is stored. -/
theorem step (holds : Holds onWrite origin home stack ids spaces past twins)
    (handles : handlers onWrite = Program.copyOnWrite) (low : Program.ReturnsBelow stack)
    (apart : spaces .child ≠ spaces .parent) {event : TwinEvent}
    (step : Step handlers ids event twins next) :
    Holds onWrite origin home stack ids spaces (past ++ [event]) next := by
  cases step with
  | timer => exact holds.timer
  | @uses _ twin use bytes attempts after running below served =>
    obtain ⟨middle, still, runs, accessed, library⟩ :=
      holds.served handles low running below served
    rw [library, Function.update_eq_self]
    cases use with
    | load va length =>
      -- A load in place changes nothing.
      obtain ⟨same, -, -⟩ := runs.load_ok accessed
      rw [same]
      refine { still with bytes := fun other va low entry found => ?_ }
      rw [TwinEvent.latest_concat]
      exact still.bytes other va low entry found
    | store va data =>
      obtain ⟨written, again, outline, granted⟩ := runs.store_ok accessed
      have entries := middle.kernel.memory.entryAt?_copyOut (spaces twin) va data
      rw [written] at entries
      refine
        { coupled := again.coupled
          outline_eq := fun other => by rw [outline]; exact still.outline_eq other
          handled := still.handled
          permitted := fun handle place entry found =>
            still.permitted handle place entry (entries handle place ▸ found)
          isolated := fun other => (still.isolated other).congr entries
          bytes := fun other place low entry found => ?_ }
      rw [entries] at found
      obtain ⟨atFork, stored⟩ := still.bytes other place low entry found
      -- Only the bytes at these addresses are replaced, since no other page shares their frames.
      have replaced := (still.isolated other).guarded.byteAt_copyOut
        still.coupled.settled.memory below.length_le written
        (fun offset inside _ => runs.writable (granted offset inside)) low found
      refine ⟨atFork, fun outside => ?_⟩
      have before := stored outside
      rw [replaced, before, TwinEvent.latest_concat]
      -- The bytes go to the space of the one that stores them, and to no other one.
      by_cases own : twin = other
      · subst own
        simp only [TwinEvent.update, if_true]
      · have different : spaces twin ≠ spaces other := by
          cases twin <;> cases other <;> simp_all [Ne.symm apart]
        simp only [TwinEvent.update, if_neg own, if_neg different]

/-- However many events there are, both have what they held but for what is stored. -/
theorem leads (holds : Holds onWrite origin home stack ids spaces past twins)
    (handles : handlers onWrite = Program.copyOnWrite) (low : Program.ReturnsBelow stack)
    (apart : spaces .child ≠ spaces .parent) {events : List TwinEvent} {last : Twins η}
    (leads : Leads handlers ids events twins last) :
    Holds onWrite origin home stack ids spaces (past ++ events) last := by
  -- Induct on the events: the first one keeps what both hold, and so does the rest.
  induction events generalizing past twins with
  | nil =>
    obtain rfl : last = twins := leads
    rwa [List.append_nil]
  | cons event rest ih =>
    obtain ⟨next, step, later⟩ := leads
    have done := ih (holds.step handles low apart step) later
    rwa [List.append_assoc, List.singleton_append] at done

end Holds

/-- After a fork both hold what the parent held. -/
theorem holds_forked {before after : UserState η Machine} {slot : Slot} {space child : SpaceHandle}
    {parent id : EnvId} (forked : Program.Forked before after onWrite slot space id child)
    (runs : before.cpu.Runs slot space) (named : before.cpu.current = some parent) :
    Holds onWrite before.cpu.kernel.memory space before.cpu.context.esp (Twin.pick parent id)
      (Twin.pick space child) [] ⟨after.cpu, fun _ => after.library⟩ := by
  have coupled := forked.runs.coupled
  have sound := coupled.settled.memory
  obtain rfl : (before.cpu.kernel.envAt slot).id = parent := by
    rw [runs.current, Option.some.injEq] at named
    exact named
  have isolated := forked.shares.isolated forked.retains.isolated
  refine
    { coupled := coupled
      outline_eq := fun twin => ?_
      handled := fun _ => forked.handled
      permitted := forked.retains.permitted
      isolated := fun twin => ?_
      bytes := fun twin va below entry found => ?_ }
  · cases twin with
    | parent =>
      -- The parent keeps its outline, and the child has one of its own.
      change after.cpu.outline (before.cpu.kernel.envAt slot).id.slot = _
      rw [runs.slot_id, forked.parent_eq, runs.outline_eq]
      rfl
    | child => exact forked.child_eq
  · cases twin with
    | parent => exact forked.retains.isolated
    | child => exact isolated
  · cases twin with
    | parent => exact forked.retains.keeps va below entry found
    | child =>
      -- The child's page is the parent's page, which has the bytes that it had.
      obtain ⟨mapped, same⟩ := forked.shares.byteAt_eq below found
      obtain ⟨shared, foundShared⟩ := Option.isSome_iff_exists.mp mapped
      obtain ⟨atFork, kept⟩ := forked.retains.keeps va below shared foundShared
      exact ⟨atFork, fun outside => same.trans (kept outside)⟩

end Twins

/-- What it takes for a space to be forked: its pages can be written at their own place only. -/
structure Memory.Forkable (memory : Memory) (space : SpaceHandle) (stack : Address) : Prop where
  /-- No frame below the stack top is mapped twice. -/
  single : ∀ va < stackTop, ∀ entry, memory.entryAt? space va = some entry →
    ∀ place other, memory.entryAt? space place = some other → other.frame = entry.frame →
      pageNumber place = pageNumber va
  /-- No other space may write to such a frame. -/
  unwritable : ∀ va < stackTop, ∀ entry, memory.entryAt? space va = some entry →
    ∀ handle place other, handle ≠ space → memory.entryAt? handle place = some other →
      other.frame = entry.frame → other.flags.contains .writable = false
  /-- The page on which copies are made is free. -/
  vacant : memory.entryAt? space copyPage = none
  /-- Fault handlers return through a word below the stack top. -/
  returns : Program.ReturnsBelow stack

/-- A space can be forked if no page table shares a frame with it. -/
theorem Memory.forkable_of_all {memory : Memory} {space : SpaceHandle} {stack : Address}
    (checked : ((memory.table? space).all fun table => table.entries.toList.all fun own =>
      memory.spaces.toList.zipIdx.all fun listed => listed.1.all fun table =>
        table.entries.toList.all fun other => other.2.frame != own.2.frame ||
          (listed.2 == space.index && other.1 == own.1)) = true)
    (vacant : memory.entryAt? space copyPage = none) (returns : Program.ReturnsBelow stack) :
    memory.Forkable space stack := by
  -- Every entry stands in one of the tables that are looked through.
  have only {va place : Address} {entry other : PageEntry} {handle : SpaceHandle}
      (found : memory.entryAt? space va = some entry)
      (mapped : memory.entryAt? handle place = some other) (same : other.frame = entry.frame) :
      handle.index = space.index ∧ pageNumber place = pageNumber va := by
    obtain ⟨table, named, here⟩ := Option.bind_eq_some_iff.mp found
    obtain ⟨elsewhere, listed, there⟩ := Option.bind_eq_some_iff.mp mapped
    have position := Option.join_eq_some_iff.mp listed
    rw [named, Option.all_some, List.all_eq_true] at checked
    have own := checked _ ((WordMap.find?_eq_some_iff _ _ _).mp here)
    rw [List.all_eq_true] at own
    have inTable := own (some elsewhere, handle.index)
      (List.mk_mem_zipIdx_iff_getElem?.mpr (by simpa using position))
    rw [Option.all_some, List.all_eq_true] at inTable
    simpa [same] using inTable _ ((WordMap.find?_eq_some_iff _ _ _).mp there)
  exact
    { single := fun va _ entry found place other mapped same => (only found mapped same).2
      unwritable := fun va _ entry found handle place other different mapped same =>
        absurd (congrArg SpaceHandle.mk (only found mapped same).1) different
      vacant := vacant
      returns := returns }

/-- A space that can be forked shares no writable page with another. -/
theorem Memory.Forkable.isolated {memory : Memory} {space : SpaceHandle} {stack : Address}
    (forkable : memory.Forkable space stack) : memory.Private space where
  guarded := by
    intro va entry below found other place flags mapped writes
    -- In the space itself no frame is mapped twice; elsewhere it cannot be written.
    by_cases own : other = space
    · rw [own] at mapped
      exact ⟨own, forkable.single va below entry found place _ mapped rfl⟩
    · have refused := forkable.unwritable va below entry found other place _ own mapped rfl
      simp [refused] at writes
  vacant := forkable.vacant

namespace Machine

variable {η : Type}

/--
After a fork, parent and child use their memory as if the child had got copies of all pages.

They load and store below the stack top, each by its own library, while the timer switches between
them, and every call succeeds.
-/
theorem copies_after (config : Config) (past : List MachineEvent) (parent child : EnvId)
    (space : SpaceHandle) (library : LibraryState η) (handlers : Handlers η) (onWrite : η)
    (attempts : Nat) (forked : UserState η Machine) (events : List TwinEvent) (last : Twins η)
    (handles : handlers onWrite = Program.copyOnWrite)
    (current : (after config past).current = some parent)
    (active : (after config past).kernel.memory.active = some space)
    (forkable : (after config past).kernel.memory.Forkable space (after config past).context.esp)
    (returned : Program.execute handlers attempts (Program.fork onWrite)
      ⟨library, after config past⟩ = some (.ok (.parentOf child), forked))
    (leads : Twins.Leads handlers (Twin.pick parent child) events
      ⟨forked.cpu, fun _ => forked.library⟩ last) :
    TwinEvent.Copied (after config past).kernel.memory space (after config past).context.esp
      events := by
  obtain ⟨slot, used, runs, -⟩ := (coupled_after config past).runs_of_running current
  obtain rfl : used = space := by
    rw [runs.active, Option.some.injEq] at active
    exact active
  obtain ⟨childSpace, made⟩ :=
    Program.ends_fork runs (permitted_after config past) forkable.isolated returned
  have holds := Twins.holds_forked made runs current
  intro before twin va length bytes later split offset inside outside
  rw [split] at leads
  -- The load is made in a state that the events before it lead to.
  obtain ⟨middle, early, next, step, -⟩ := Twins.leads_append.mp leads
  have there := holds.leads handles forkable.returns made.space_ne early
  exact there.load_eq handles forkable.returns step inside outside

/-- Two environments, of which the second one runs. -/
def startedTwo : List MachineEvent :=
  [.create ⟨0x800020, []⟩, .create ⟨0x800020, [⟨textStart, [195], 1, false⟩]⟩, .boot]

/-- The one that runs has written to the lowest page of its stack, and has its stack there. -/
def stackWritten : List MachineEvent :=
  startedTwo ++ [.store (stackTop - pageSize) [1],
    .setContext { esp := stackTop - pageSize + 64 }]

/-- The parent writes to its stack, and then both read there. -/
def stackStored : List TwinEvent :=
  -- A timer interrupt lets the child run.
  [.uses .parent (.store (stackTop - pageSize) [2]) [],
    .uses .parent (.load (stackTop - pageSize) 1) [2], .timer,
    .uses .child (.load (stackTop - pageSize) 1) [1]]

/-- The answer of a fork, provided that what the two do afterwards can be replayed. -/
def forkReplayed [Cpu Machine] (events : List TwinEvent) (machine : Machine) :
    Option (Option ForkSide) :=
  -- Both begin with the library as the fork has left it.
  (Program.execute FaultPolicy.handlers 2 (Program.fork FaultPolicy.copyOnWrite)
    ⟨{}, machine⟩).bind fun outcome =>
      (Twins.replay FaultPolicy.handlers (Twin.pick ⟨4097⟩ ⟨4098⟩) 2 events
        ⟨outcome.2.cpu, fun _ => outcome.2.library⟩).map fun _ => outcome.1.toOption

set_option maxRecDepth 10000 in
/-- The parent's store makes a copy of the page that both share, and the child keeps the old one. -/
theorem copies_stackStored : ∃ forked last,
    Program.execute FaultPolicy.handlers 2 (Program.fork FaultPolicy.copyOnWrite)
      ⟨{}, after { frames := 32 } stackWritten⟩ = some (.ok (.parentOf ⟨4098⟩), forked) ∧
    Twins.Leads FaultPolicy.handlers (Twin.pick ⟨4097⟩ ⟨4098⟩) stackStored
      ⟨forked.cpu, fun _ => forked.library⟩ last ∧
    TwinEvent.Copied (after { frames := 32 } stackWritten).kernel.memory ⟨1⟩
      (after { frames := 32 } stackWritten).context.esp stackStored := by
  have current : (after { frames := 32 } stackWritten).current = some ⟨4097⟩ := by decide +kernel
  have active : (after { frames := 32 } stackWritten).kernel.memory.active = some ⟨1⟩ := by
    decide +kernel
  have forkable : (after { frames := 32 } stackWritten).kernel.memory.Forkable ⟨1⟩
      (after { frames := 32 } stackWritten).context.esp :=
    Memory.forkable_of_all (by decide +kernel) (by decide +kernel)
      (by unfold Program.ReturnsBelow; decide +kernel)
  -- A whole page is copied, which is evaluated page by page.
  have ran : @forkReplayed inferInstance stackStored (after { frames := 32 } stackWritten) =
      some (some (.parentOf ⟨4098⟩)) := by
    rw [cpu_eq_cpuByPages]
    decide +kernel
  -- The whole run is replayed once, and taken apart into the fork and what follows.
  obtain ⟨⟨result, forked⟩, returned, rest⟩ := Option.bind_eq_some_iff.mp ran
  obtain ⟨last, replayed, side⟩ := Option.map_eq_some_iff.mp rest
  obtain rfl : result = .ok (.parentOf ⟨4098⟩) := by
    cases result with
    | error failure => simp [Except.toOption] at side
    | ok side' => simpa [Except.toOption] using side
  have leads := Twins.leads_of_replay replayed
  exact ⟨forked, last, returned, leads, copies_after _ _ _ _ _ _ _ _ _ _ _ _ rfl current active
    forkable returned leads⟩

end Machine

end Exokernel
