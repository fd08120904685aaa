import Exokernel.Proofs.User.PrivateCopy
import Exokernel.Proofs.User.UpcallCount
import Exokernel.Proofs.User.Upcalls

/-! Accesses under the copying handler end: each fault that is served leaves fewer marked pages. -/

namespace Exokernel

namespace Program

variable {η : Type} {handlers : Handlers η} {onWrite : η} {attempts count : Nat} {use : Access}
  {before middle after : UserState η Machine} {slot : Slot} {space : SpaceHandle}
  {record : FaultRecord}

/-- The requests of a program on a machine that counts its upcalls. -/
abbrev replyCounted (handlers : Handlers η) (attempts : Nat) :
    (request : Request η) → UserState η (Counted Machine) →
      Option (request.Answer × UserState η (Counted Machine)) :=
  Request.reply (serveAccess handlers attempts)

/-- An environment with the copying handler runs. -/
structure Equipped (onWrite : η) (state : UserState η Machine) (slot : Slot)
    (space : SpaceHandle) : Prop where
  /-- The environment runs. -/
  runs : state.cpu.Runs slot space
  /-- Its handler. -/
  handled : state.library.handler = some onWrite
  /-- All permissions are ones that user code may ask for. -/
  permitted : state.cpu.kernel.memory.Permitted

/-- How many pages wait to be copied. -/
abbrev waiting (state : UserState η Machine) (space : SpaceHandle) : Nat :=
  state.cpu.kernel.memory.copyOnWritePages space

/-- What leaves all entries alone leaves the environment equipped, with as many pages waiting. -/
theorem Equipped.entries (equipped : Equipped onWrite before slot space)
    (runs : after.cpu.Runs slot space) (library : after.library = before.library)
    (entries : ∀ handle va, after.cpu.kernel.memory.entryAt? handle va =
      before.cpu.kernel.memory.entryAt? handle va) :
    Equipped onWrite after slot space ∧ waiting after space = waiting before space where
  left :=
    { runs := runs
      handled := library ▸ equipped.handled
      permitted := fun handle va entry found =>
        equipped.permitted handle va entry (entries handle va ▸ found) }
  right := Memory.copyOnWritePages_congr equipped.runs.coupled.settled.memory
    runs.coupled.settled.memory (entries space)

/-- A fault that is delivered leaves as many pages waiting. -/
theorem Equipped.faulted (equipped : Equipped onWrite before slot space)
    (faulted : Faulted before middle slot space record) :
    Equipped onWrite middle slot space ∧ waiting middle space = waiting before space := by
  -- The record is written to memory, and entries stay.
  have entries := before.cpu.kernel.memory.entryAt?_copyOut space
    (recordAddress before.cpu.context.esp) record.encode
  rw [faulted.recorded] at entries
  exact equipped.entries faulted.runs faulted.library_eq entries

/-- An access that is made in place leaves as many pages waiting. -/
theorem Equipped.made (equipped : Equipped onWrite before slot space) {bytes : List UInt8}
    {machine : Machine} (accessed : Cpu.access before.cpu use = (.ok bytes, machine)) :
    Equipped onWrite ⟨before.library, machine⟩ slot space ∧
      waiting (⟨before.library, machine⟩ : UserState η Machine) space = waiting before space := by
  -- A load changes nothing, and a store no entry.
  cases use with
  | load va length =>
    have loaded : before.cpu.load va length = (.ok bytes, machine) := accessed
    obtain ⟨-, rfl, -⟩ := Machine.load_ok loaded
    exact ⟨equipped, rfl⟩
  | store va data =>
    obtain ⟨written, again, -, -⟩ := equipped.runs.store_ok accessed
    have entries := before.cpu.kernel.memory.entryAt?_copyOut space va data
    rw [written] at entries
    exact equipped.entries again rfl entries

/-- The handler ends without an upcall, and if it ends well there are fewer pages waiting. -/
theorem Equipped.dispatched (equipped : Equipped onWrite before slot space)
    (handles : handlers onWrite = copyOnWrite) (record : FaultRecord) (attempts count : Nat) :
    ∃ result after,
      Ends (replyCounted handlers (attempts + 1)) (dispatchFault handlers record)
        (before.counted count) result (after.counted count) ∧
      ∀ done, result = .ok done →
        Equipped onWrite after slot space ∧ waiting after space < waiting before space := by
  obtain ⟨result, after, ends, stays, outcome⟩ :=
    ends_copyOnWrite_of handlers 0 equipped.runs equipped.permitted record
  have ran := ends_counted (modest_copyOnWrite record) ends attempts count
  rw [← handles] at ran
  have asked : Ends (replyCounted handlers (attempts + 1)) (ask .handler) (before.counted count)
      (.ok (some onWrite)) (before.counted count) := by
    rw [← equipped.handled]
    exact ends_ask.mpr rfl
  cases result with
  | error failure =>
    -- A handler that fails ends its environment.
    refine ⟨.error failure, { after with cpu := (Cpu.syscall after.cpu .destroyEnv {}).2 },
      ends_bind_iff.mpr (.inl ⟨_, _, asked, ?_⟩), by simp⟩
    exact ends_tryCatch_iff.mpr (.inr ⟨failure, _, ran, ends_exit_of _ _ failure⟩)
  | ok =>
    obtain ⟨⟨old, mapped, marked⟩, copies⟩ := outcome
    refine ⟨.ok (), after, ends_bind_iff.mpr (.inl ⟨_, _, asked, ?_⟩), fun _ _ => ?_⟩
    · exact ends_tryCatch_iff.mpr (.inl ⟨(), rfl, ran⟩)
    · exact ⟨⟨stays.runs, stays.library_eq ▸ equipped.handled, copies.permitted equipped.permitted⟩,
        copies.copyOnWritePages_lt stays.runs.coupled.settled.memory mapped marked⟩

/-- New registers are set without an upcall, and leave as many pages waiting. -/
theorem Equipped.reset (equipped : Equipped onWrite before slot space) (context : UserContext)
    (handlers : Handlers η) (attempts count : Nat) : ∃ after : UserState η Machine,
      Ends (replyCounted handlers attempts) (ask (.setContext context)) (before.counted count)
        (.ok ()) (after.counted count) ∧
      Equipped onWrite after slot space ∧ waiting after space = waiting before space ∧
      after.cpu.kernel = before.cpu.kernel := by
  -- Registers are no part of memory.
  obtain ⟨again, kernel, -⟩ := equipped.runs.setContext context
  have begun : (⟨before.library, before.cpu.setContext context⟩ :
    UserState η Machine).cpu.Runs slot space := again
  obtain ⟨kept, same⟩ := equipped.entries begun rfl fun handle va => by rw [kernel]
  exact ⟨_, ends_ask.mpr rfl, kept, same, kernel⟩

/-- A load that is made in place raises no upcall. -/
theorem ends_load_counted {va : Address} {length : Nat} {bytes : List UInt8}
    (loaded : Cpu.access before.cpu (.load va length) = (.ok bytes, before.cpu))
    (handlers : Handlers η) (attempts count : Nat) :
    Ends (replyCounted handlers (attempts + 1)) (load va length) (before.counted count) (.ok bytes)
      (before.counted count) := by
  -- The counting processor makes the same access, and counts nothing.
  have counting : Cpu.access (before.counted count).cpu (.load va length) = _ :=
    access_counted loaded count
  have served : serveAccess handlers (attempts + 1) (.load va length) (before.counted count) = _ :=
    serveAccess_of_made counting
  exact ends_load.mpr served

/-- The return from a handler goes through a word that can be read, and raises no upcall. -/
theorem Equipped.returned (equipped : Equipped onWrite before slot space) {va : Address}
    (granted : ∀ offset < 4, before.cpu.refusal? false (va + UInt32.ofNat offset) = none)
    (context : UserContext) (handlers : Handlers η) (attempts count : Nat) :
    ∃ after, Ends (replyCounted handlers (attempts + 1)) (do
        ask (.setContext { context with esp := va })
        let target := wordAt (← load va 4) 0
        ask (.setContext { context with eip := target, esp := va + 4 }))
        (before.counted count) (.ok ()) (after.counted count) ∧
      Equipped onWrite after slot space ∧ waiting after space = waiting before space := by
  obtain ⟨moved, moving, between, same, kernel⟩ :=
    equipped.reset { context with esp := va } handlers (attempts + 1) count
  -- What may be read depends on the kernel, which does not notice new registers.
  have loaded : Cpu.access moved.cpu (.load va 4) = _ :=
    Machine.load_of_granted between.runs.current between.runs.active fun offset inside =>
      Machine.refusal?_congr (by rw [kernel]) (fun _ => by rw [kernel]) (granted offset inside)
  have reading := ends_load_counted loaded handlers attempts count
  obtain ⟨after, returning, last, kept, -⟩ := between.reset
    { context with eip := wordAt _ 0, esp := va + 4 } handlers (attempts + 1) count
  exact ⟨after, ends_bind.mpr ⟨_, _, moving, ends_bind.mpr ⟨_, _, reading, returning⟩⟩, last,
    kept.trans same⟩

/-- A fault that has been delivered is served by its handler and the return from it. -/
theorem Faulted.ends_counted {result : Except UserError Unit}
    {last : UserState η (Counted Machine)} (runs : before.cpu.Runs slot space)
    (faulted : Faulted before middle slot space record)
    (ends : Ends (replyCounted handlers (attempts + 1))
      (dispatchFault handlers record >>= fun _ => returnTo record.context)
      (middle.counted count) result last) :
    Ends (replyCounted handlers (attempts + 1)) (serviceFault handlers) (middle.counted count)
      result last := by
  have asked : Ends (replyCounted handlers (attempts + 1)) (ask .context) (middle.counted count)
      (.ok middle.cpu.context) (middle.counted count) := ends_ask.mpr rfl
  have loaded := ends_load_counted (faulted.loads_record runs) handlers attempts count
  rw [← faulted.stack_eq] at loaded
  -- The record is read back as it was written.
  refine ends_bind_iff.mpr (.inl ⟨_, _, asked, ends_bind_iff.mpr (.inl ⟨_, _, loaded, ?_⟩)⟩)
  rw [FaultRecord.decode_encode]
  exact ends

/-- An access has ended, and the pages that are left pay for the upcalls that it took. -/
def Paid (onWrite : η) (slot : Slot) (space : SpaceHandle) (use : Access)
    (before after : UserState η Machine) (count total : Nat) :
    Except UserError (List UInt8) → Prop
  -- A failure may have cost one upcall more, that of the fault that was not served.
  | .ok bytes => Equipped onWrite after slot space ∧
      (∃ last : UserState η Machine, last.cpu.Runs slot space ∧
        Cpu.access last.cpu use = (.ok bytes, after.cpu)) ∧
      count ≤ total ∧ total + waiting after space ≤ count + waiting before space
  | .error _ => total ≤ count + waiting before space + 1

/-- An access ends in a way that is paid for. -/
def Finishes (handlers : Handlers η) (onWrite : η) (slot : Slot) (space : SpaceHandle)
    (attempts : Nat) (use : Access) (before : UserState η Machine) : Prop :=
  -- The count so far makes no difference.
  ∀ count, ∃ result after total,
    serveAccess handlers attempts use (before.counted count) = some (result, after.counted total) ∧
      Paid onWrite slot space use before after count total result

/-- Serving a fault pays for its upcall with a page, if the return address can be stored. -/
theorem Equipped.serviced (equipped : Equipped onWrite before slot space)
    (handles : handlers onWrite = copyOnWrite) (faulted : Faulted before middle slot space record)
    (inner : ∀ use state, Equipped onWrite state slot space →
      waiting state space < waiting before space →
        Finishes handlers onWrite slot space (attempts + 1) use state) (count : Nat) :
    ∃ result after total,
      Ends (replyCounted handlers (attempts + 1)) (serviceFault handlers) (middle.counted count)
        result (after.counted total) ∧
      match result with
      | .ok () => Equipped onWrite after slot space ∧ count ≤ total ∧
          total + waiting after space < count + waiting before space
      | .error _ => total ≤ count + waiting before space := by
  obtain ⟨armed, same⟩ := equipped.faulted faulted
  obtain ⟨result, handled, dispatched, better⟩ := armed.dispatched handles record attempts count
  cases result with
  | error failure =>
    exact ⟨_, handled, count, faulted.ends_counted equipped.runs
      (ends_bind_iff.mpr (.inr ⟨failure, rfl, dispatched⟩)), Nat.le_add_right _ _⟩
  | ok done =>
    obtain ⟨ready, fewer⟩ := better done rfl
    rw [same] at fewer
    -- The return address may itself be on a page that is to be copied.
    obtain ⟨result, stored, total, serving, paid⟩ := inner (.store (record.context.esp - 4)
      (wordBytes record.context.eip)) handled ready fewer count
    cases result with
    | error failure =>
      have storing : Ends (replyCounted handlers (attempts + 1)) (store (record.context.esp - 4)
          (wordBytes record.context.eip)) (handled.counted count) (.error failure)
          (stored.counted total) :=
        ends_bind_iff.mpr (.inr ⟨failure, rfl, ends_access.mpr serving⟩)
      refine ⟨_, stored, total, faulted.ends_counted equipped.runs (ends_bind_iff.mpr
        (.inl ⟨_, _, dispatched, ends_bind_iff.mpr (.inr ⟨failure, rfl, storing⟩)⟩)), ?_⟩
      simp only [Paid] at paid
      omega
    | ok bytes =>
      -- The return address is read from the place where it has just been stored.
      obtain ⟨kept, ⟨last, running, placed⟩, grown, left⟩ := paid
      obtain ⟨after, returning, again, rest⟩ := kept.returned (running.readable_of_stored placed)
        record.context handlers attempts total
      have storing : Ends (replyCounted handlers (attempts + 1)) (store (record.context.esp - 4)
          (wordBytes record.context.eip)) (handled.counted count) (.ok ())
          (stored.counted total) := ends_store.mpr ⟨bytes, serving⟩
      refine ⟨.ok (), after, total, faulted.ends_counted equipped.runs (ends_bind_iff.mpr
        (.inl ⟨_, _, dispatched, ends_bind_iff.mpr (.inl ⟨_, _, storing, returning⟩)⟩)),
        again, grown, ?_⟩
      omega

/-- An access that faults is made again once the fault is served, with fewer pages waiting. -/
theorem Equipped.finishes_of_fault (equipped : Equipped onWrite before slot space)
    (handles : handlers onWrite = copyOnWrite) {use : Access} {machine : Machine}
    (accessed : Cpu.access before.cpu use = (.error .upcall, machine))
    (inner : ∀ use state, Equipped onWrite state slot space →
      waiting state space < waiting before space →
        Finishes handlers onWrite slot space (attempts + 1) use state) :
    Finishes handlers onWrite slot space (attempts + 2) use before := by
  intro count
  have counting : Cpu.access (before.counted count).cpu use = _ := access_counted accessed count
  obtain ⟨record, -, faulted⟩ := Faulted.of_upcall equipped.runs accessed
  obtain ⟨result, resumed, middle, service, paid⟩ :=
    equipped.serviced handles faulted inner (count + 1)
  have served : (serviceFault handlers).run.run (replyCounted handlers (attempts + 1))
    ((⟨before.library, machine⟩ : UserState η Machine).counted (count + 1)) = _ := service
  rw [serveAccess_of_fault counting]
  change ∃ result after total, Option.bind (UserCode.run _ _
    ((⟨before.library, machine⟩ : UserState η Machine).counted (count + 1))) _ = _ ∧ _
  rw [served]
  cases result with
  | error failure =>
    -- The handler has given up, and so ends the access.
    refine ⟨_, resumed, middle, rfl, ?_⟩
    simp only [Paid]
    omega
  | ok done =>
    obtain ⟨ready, grown, left⟩ := paid
    -- The access is tried again, with fewer pages left that could fault.
    obtain ⟨result, after, total, serving, ending⟩ :=
      inner use resumed ready (by omega) middle
    refine ⟨result, after, total, serving, ?_⟩
    cases result with
    | error failure =>
      simp only [Paid] at ending ⊢
      omega
    | ok bytes =>
      obtain ⟨kept, placed, more, rest⟩ := ending
      exact ⟨kept, placed, by omega, by omega⟩

/-- Every access ends: each upcall that is followed by another try has used up a page. -/
theorem Equipped.finishes (handles : handlers onWrite = copyOnWrite) (use : Access)
    (equipped : Equipped onWrite before slot space) (enough : waiting before space + 2 ≤ attempts) :
    Finishes handlers onWrite slot space attempts use before := by
  -- Induct on the number of pages that wait, for accesses of any kind and at any depth.
  induction pages : waiting before space using Nat.strong_induction_on
    generalizing before attempts use with
  | h pages ih =>
    subst pages
    obtain ⟨attempts, rfl⟩ : ∃ fewer, attempts = fewer + 2 :=
      ⟨attempts - 2, by omega⟩
    rcases accessed : Cpu.access before.cpu use with ⟨⟨_ | _⟩ | bytes, machine⟩
    · exact equipped.finishes_of_fault handles accessed fun use state ready fewer =>
        ih _ fewer use ready (by omega) rfl
    · -- The processor was lost.
      intro count
      exact ⟨_, ⟨before.library, machine⟩, count,
        serveAccess_of_lost (access_counted accessed count), by simp only [Paid]; omega⟩
    · -- The access was made, and has left as many pages waiting.
      intro count
      obtain ⟨kept, same⟩ := equipped.made accessed
      exact ⟨_, ⟨before.library, machine⟩, count,
        serveAccess_of_made (access_counted accessed count), kept,
        ⟨before, equipped.runs, accessed⟩, le_rfl, by omega⟩

end Program

namespace Machine

/-- How many pages of the space in use are marked to be copied before they are written. -/
def copyOnWritePages (machine : Machine) : Nat :=
  (machine.kernel.memory.active.map machine.kernel.memory.copyOnWritePages).getD 0

/-- Whoever runs, or nobody, an access under the copying handler ends with few upcalls. -/
theorem Coupled.finishes {η : Type} {machine : Machine} {library : LibraryState η}
    {handlers : Handlers η} {onWrite : η} (coupled : machine.Coupled)
    (permitted : machine.kernel.memory.Permitted) (handles : handlers onWrite = Program.copyOnWrite)
    (registered : library.handler = some onWrite) (use : Access) :
    ∃ result upcalls, ∃ last : UserState η Machine, upcalls ≤ machine.copyOnWritePages + 1 ∧
      serveAccess handlers (machine.copyOnWritePages + 2) use
        (UserState.counted ⟨library, machine⟩ 0) = some (result, last.counted upcalls) := by
  cases running : machine.current with
  | none =>
    -- While nobody runs, an access finds the processor lost.
    have lost : Cpu.access machine use = (.error .descheduled, (Cpu.access machine use).2) := by
      refine Prod.ext ?_ rfl
      by_contra found
      obtain ⟨id, current⟩ := current_of_access rfl found
      simp [running] at current
    have counting : Cpu.access (UserState.counted ⟨library, machine⟩ 0).cpu use = _ :=
      access_counted lost 0
    exact ⟨_, 0, ⟨library, _⟩, Nat.zero_le _, serveAccess_of_lost counting⟩
  | some id =>
    obtain ⟨slot, space, runs, -⟩ := coupled.runs_of_running running
    have equipped : Program.Equipped onWrite ⟨library, machine⟩ slot space :=
      ⟨runs, registered, permitted⟩
    -- While the environment runs, its own space is the one in use.
    have pages : machine.copyOnWritePages =
        Program.waiting (⟨library, machine⟩ : UserState η Machine) space := by
      rw [copyOnWritePages, runs.active]
      rfl
    rw [pages]
    obtain ⟨result, last, upcalls, served, paid⟩ := equipped.finishes handles use le_rfl 0
    refine ⟨result, upcalls, last, ?_, served⟩
    cases result with
    | error failure =>
      simp only [Program.Paid] at paid
      omega
    | ok bytes =>
      obtain ⟨-, -, -, left⟩ := paid
      omega

/--
Under the copying handler every load and every store ends, however many attempts it is given from
some number on. It takes at most one upcall more than the running environment has marked pages,
counting those of nested faults.
-/
theorem terminates_after {η : Type} (config : Config) (past : List MachineEvent)
    (library : LibraryState η) (handlers : Handlers η) (onWrite : η) (use : Access)
    (handles : handlers onWrite = Program.copyOnWrite)
    (registered : library.handler = some onWrite) :
    ∃ result upcalls, ∃ last : UserState η Machine,
      upcalls ≤ (after config past).copyOnWritePages + 1 ∧
      ∀ attempts, (after config past).copyOnWritePages + 2 ≤ attempts →
        serveAccess handlers attempts use ⟨library, after config past⟩ = some (result, last) ∧
        serveAccess handlers attempts use (UserState.counted ⟨library, after config past⟩ 0) =
          some (result, last.counted upcalls) := by
  -- Once the access has ended, more attempts change nothing, and neither does the count.
  obtain ⟨result, upcalls, last, few, served⟩ := (coupled_after config past).finishes
    (permitted_after config past) handles registered use
  refine ⟨result, upcalls, last, few, fun attempts enough => ?_⟩
  have counted := serveAccess_mono enough served
  have plainly := serveAccess_plain handlers attempts use
    (UserState.counted ⟨library, after config past⟩ 0)
  rw [counted] at plainly
  exact ⟨plainly, counted⟩

/-- An environment with a fault entry point has one page that is to be copied. -/
def pageMarked : List MachineEvent :=
  entryRegistered ++
    [.syscall .mapPage { second := textStart, fourth := scratchStart, fifth := 0x805 }]

/-- A store to the marked page faults, and ends after at most two upcalls. -/
theorem terminates_marked :
    (Cpu.access (after { frames := 32 } pageMarked) (.store scratchStart [1])).1 =
      .error .upcall ∧
    ∃ result upcalls, ∃ last : UserState FaultPolicy Machine, upcalls ≤ 2 ∧
      ∀ attempts, 3 ≤ attempts →
        serveAccess FaultPolicy.handlers attempts (.store scratchStart [1])
          ⟨{ handler := some .copyOnWrite }, after { frames := 32 } pageMarked⟩ =
            some (result, last) ∧
        serveAccess FaultPolicy.handlers attempts (.store scratchStart [1])
          (UserState.counted
            ⟨{ handler := some .copyOnWrite }, after { frames := 32 } pageMarked⟩ 0) =
            some (result, last.counted upcalls) := by
  -- One page is marked, so that there is one upcall for it, and one more to spare.
  have faulted : (Cpu.access (after { frames := 32 } pageMarked) (.store scratchStart [1])).1 =
      .error .upcall := by
    decide +kernel
  have pages : (after { frames := 32 } pageMarked).copyOnWritePages = 1 := by decide +kernel
  have ends := terminates_after { frames := 32 } pageMarked { handler := some .copyOnWrite }
    FaultPolicy.handlers .copyOnWrite (.store scratchStart [1]) rfl rfl
  rw [pages] at ends
  exact ⟨faulted, ends⟩

end Machine

end Exokernel
