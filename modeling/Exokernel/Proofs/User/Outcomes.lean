import Exokernel.Proofs.Memory.References
import Exokernel.Proofs.Profiles
import Exokernel.Proofs.User.CopyOnWrite

/-! How single requests of user code end, whether they are granted or refused. -/

namespace Exokernel

/-- What a system call answers is read back as its outcome. -/
theorem SysError.ofWord?_encodeResult {result : Except SysError Word}
    (small : ∀ value, result = .ok value → value.toNat < 2147483648) :
    ofWord? (encodeResult result) = match result with
      | .ok _ => none
      | .error error => some error := by
  -- A value below the sign bit is not taken for an error.
  cases result with
  | error error => exact ofWord?_toWord error
  | ok value =>
    have positive : value < 0x80000000 := UInt32.lt_iff_toNat_lt.mpr (small value rfl)
    simp [encodeResult, ofWord?, positive]

/-- Where a page is mapped, the directory has an entry that is in use. -/
theorem Program.isPresent_tableEntry (frame : FrameNumber) :
    isPresent (frameAddress frame ||| PageFlags.readWrite.bits) = true := by
  -- Of the flags that are added, one is that of a used entry.
  refine PageFlags.contains_iff.mpr fun index wanted => ?_
  have inside := PageFlags.contains_iff.mp (by decide : PageFlags.readWrite.contains .present) index
    wanted
  show (frameAddress frame ||| PageFlags.readWrite.bits).toBitVec.getLsbD index = true
  rw [UInt32.toBitVec_or, BitVec.getLsbD_or, inside, Bool.or_true]

namespace Memory

variable {memory : Memory} {handle : SpaceHandle} {va : Address} {old : PageEntry} {size : Nat}

/-- A page that is mapped has its page table. -/
theorem Sound.tableFrame?_isSome (sound : memory.Sound size 0)
    (found : memory.entryAt? handle va = some old) :
    (memory.tableFrame? handle (tableIndex va)).isSome = true := by
  -- An entry is looked up through its table.
  obtain ⟨table, named, -⟩ := Option.bind_eq_some_iff.mp found
  rw [tableFrame?, named]
  exact sound.tableIndex_isSome named found

/-- A page that is mapped can always be mapped anew. -/
theorem Sound.map_mapped (sound : memory.Sound size 0)
    (found : memory.entryAt? handle va = some old) (aligned : isAligned va = true)
    (below : va < userTop) (frame : FrameNumber) (flags : PageFlags) :
    (memory.map handle va frame flags).1 = .ok () := by
  -- Its page table is there, so that no frame is missing.
  obtain ⟨table, named, -⟩ := Option.bind_eq_some_iff.mp found
  exact map_isOk named aligned below (sound.tableIndex_isSome named found) frame flags

end Memory

namespace Program

variable {η : Type} {handlers : Handlers η} {attempts : Nat} {before after : UserState η Machine}
  {slot : Slot} {space : SpaceHandle}

/-- Between two states the same environment runs, with the same library, and no profile differs. -/
structure Stays (before after : UserState η Machine) (slot : Slot) (space : SpaceHandle) :
    Prop where
  /-- The environment runs. -/
  runs : after.cpu.Runs slot space
  /-- No profile has changed. -/
  profile_eq : after.cpu.kernel.profile = before.cpu.kernel.profile
  /-- The library is the same. -/
  library_eq : after.library = before.library
  /-- The configuration never changes. -/
  config_eq : after.cpu.kernel.config = before.cpu.kernel.config

namespace Stays

/-- An environment stays where it is while nothing happens. -/
theorem refl (runs : before.cpu.Runs slot space) : Stays before before slot space :=
  ⟨runs, rfl, rfl, rfl⟩

/-- An environment that stays twice stays. -/
theorem trans {middle : UserState η Machine} (first : Stays before middle slot space)
    (second : Stays middle after slot space) : Stays before after slot space where
  runs := second.runs
  profile_eq := second.profile_eq.trans first.profile_eq
  library_eq := second.library_eq.trans first.library_eq
  config_eq := second.config_eq.trans first.config_eq

end Stays

/-- A call that is answered ends with the answer, or with the error that it means. -/
theorem ends_call_of_answer {call : Syscall} {words : Arguments} {word : Word} {machine : Machine}
    (answered : before.cpu.syscall call words = (.ok word, machine)) :
    Ends (reply handlers attempts) (Program.call call words) before
      (match SysError.ofWord? word with
        | some error => .error (.kernel error)
        | none => .ok word) { before with cpu := machine } := by
  have asked : Ends (reply handlers attempts) (ask (.syscall call words)) before
      (.ok (.ok word)) { before with cpu := machine } := by
    have replied : reply handlers attempts (.syscall call words) before =
        some ((before.cpu.syscall call words).1,
          { before with cpu := (before.cpu.syscall call words).2 }) := rfl
    rw [answered] at replied
    exact ends_ask.mpr replied
  refine ends_bind_iff.mpr (.inl ⟨_, _, asked, ?_⟩)
  -- The answer is read as an error, or given back as it is.
  cases meaning : SysError.ofWord? word with
  | some error => simp [meaning, ends_throw]
  | none => simp [meaning, ends_pure]

/-- A command that is answered ends well, or with the error that the answer means. -/
theorem ends_command_of_answer {call : Syscall} {words : Arguments}
    {result : Except SysError Unit} {machine : Machine}
    (answered : before.cpu.syscall call words =
      (.ok (SysError.encodeResult (result.map fun () => 0)), machine)) :
    Ends (reply handlers attempts) (command call words) before (result.mapError .kernel)
      { before with cpu := machine } := by
  -- The answer zero means success, and no error reads back as it.
  have called : Ends (reply handlers attempts) (Program.call call words) before _ _ :=
    ends_call_of_answer answered
  rw [SysError.ofWord?_encodeResult (by
    intro value done
    cases result with
    | error error => simp [Except.map] at done
    | ok =>
      simp only [Except.map, Except.ok.injEq] at done
      rw [← done]
      decide)] at called
  cases result with
  | error error => exact ends_bind_iff.mpr (.inr ⟨_, rfl, called⟩)
  | ok => exact ends_bind_iff.mpr (.inl ⟨_, _, called, ends_pure.mpr ⟨rfl, rfl⟩⟩)

variable (handlers) (attempts)

/-- A command that changes memory alone ends as its change of memory does. -/
theorem ends_command_memory (runs : before.cpu.Runs slot space) {call : Syscall}
    {words : Arguments} {result : Except SysError Unit} {memory : Memory}
    (performed : (before.cpu.calling slot call words).perform call words =
      Kernel.answerUnit (result, { before.cpu.calling slot call words with memory }))
    (active : memory.active = before.cpu.kernel.memory.active) :
    ∃ after, Ends (reply handlers attempts) (command call words) before (result.mapError .kernel)
        after ∧ Stays before after slot space ∧ after.cpu.kernel.memory = memory := by
  -- The answer is the result, read back from its register value.
  obtain ⟨next, answered, proceeds⟩ := runs.proceeds_memory performed active
  exact ⟨_, ends_command_of_answer answered,
    ⟨proceeds.runs, proceeds.profile_eq, rfl, proceeds.config_eq⟩, proceeds.memory_eq⟩

/-- An acceptable request for a fresh page ends as memory allows. -/
theorem ends_allocPage_of (runs : before.cpu.Runs slot space) {id : EnvId} {handle : SpaceHandle}
    (reaches : before.cpu.kernel.Reaches id handle) {va : Address} (aligned : isAligned va = true)
    (below : va < userTop) {flags : PageFlags} (allowed : flags.isUserPermission = true) :
    ∃ after, Ends (reply handlers attempts) (allocPage id va flags) before
        ((before.cpu.kernel.memory.mapFresh handle va flags).1.mapError .kernel) after ∧
      Stays before after slot space ∧
      after.cpu.kernel.memory = (before.cpu.kernel.memory.mapFresh handle va flags).2 := by
  refine ends_command_memory handlers attempts runs ?_
    (before.cpu.kernel.memory.sameOutside_mapFresh handle va flags).active_eq
  -- The kernel's call comes to the change of memory, as its checks are passed.
  exact congrArg Kernel.answerUnit
    (Kernel.allocPage_of_reaches (Machine.reaches_calling reaches _ _ _) aligned below allowed)

/-- An acceptable request to map a page again ends as memory allows. -/
theorem ends_mapPage_of (runs : before.cpu.Runs slot space) {id : EnvId} {handle : SpaceHandle}
    (reaches : before.cpu.kernel.Reaches id handle) {sourceVa va : Address}
    (sourceAligned : isAligned sourceVa = true) (sourceBelow : sourceVa < userTop)
    (aligned : isAligned va = true) (below : va < userTop) {flags : PageFlags}
    (allowed : flags.isUserPermission = true) {entry : PageEntry}
    (mapped : before.cpu.kernel.memory.entryAt? space sourceVa = some entry)
    (covered : flags.contains .writable = true → entry.flags.contains .writable = true) :
    ∃ after, Ends (reply handlers attempts) (mapPage .self sourceVa id va flags) before
        (((before.cpu.kernel.memory.map handle va entry.frame flags).1.mapError
          SpaceError.toSysError).mapError .kernel) after ∧
      Stays before after slot space ∧
      after.cpu.kernel.memory = (before.cpu.kernel.memory.map handle va entry.frame flags).2 := by
  refine ends_command_memory handlers attempts runs ?_
    (before.cpu.kernel.memory.sameOutside_map handle va entry.frame flags).active_eq
  -- The kernel's call comes to the change of memory, as its checks are passed.
  exact congrArg Kernel.answerUnit
    (Kernel.mapPage_of_reaches (Machine.reaches_calling runs.reaches_self _ _ _)
      (Machine.reaches_calling reaches _ _ _) sourceAligned sourceBelow aligned below allowed mapped
      covered)

/-- An acceptable request to remove a page of the own space is granted. -/
theorem ends_unmapPage_of (runs : before.cpu.Runs slot space) {va : Address}
    (aligned : isAligned va = true) (below : va < userTop) :
    ∃ after, Ends (reply handlers attempts) (unmapPage .self va) before (.ok ()) after ∧
      Stays before after slot space ∧
      after.cpu.kernel.memory = (before.cpu.kernel.memory.unmap space va).2 := by
  -- Nothing can be missing, since the space of whoever runs exists.
  obtain ⟨handle, held, exists_⟩ := runs.coupled.settled.owns slot
    (Env.isLive_of_isRunnable runs.ready)
  rw [runs.held, Option.some.injEq] at held
  subst held
  obtain ⟨table, found⟩ := Option.isSome_iff_exists.mp exists_
  have granted : (before.cpu.kernel.memory.unmap space va).1 = .ok () := by
    rw [Memory.unmap_spec found]
  have ends : ∃ after, Ends (reply handlers attempts) (unmapPage .self va) before
      (((before.cpu.kernel.memory.unmap space va).1.mapError SpaceError.toSysError).mapError
        .kernel) after ∧ Stays before after slot space ∧
      after.cpu.kernel.memory = (before.cpu.kernel.memory.unmap space va).2 := by
    refine ends_command_memory handlers attempts runs ?_
      (before.cpu.kernel.memory.sameOutside_unmap space va).active_eq
    exact congrArg Kernel.answerUnit
      (Kernel.unmapPage_of_reaches (Machine.reaches_calling runs.reaches_self _ _ _) aligned below)
  rwa [granted] at ends

/-- The permission of a page is that of its entry, and empty if there is none. -/
theorem ends_permissionAt_of (runs : before.cpu.Runs slot space)
    (permitted : before.cpu.kernel.memory.Permitted) (va : Address) :
    Ends (reply handlers attempts) (permissionAt va) before
      (.ok (((before.cpu.kernel.memory.entryAt? space va).map PageEntry.flags).getD .empty))
      before := by
  -- The page entry is read only where the directory shows a page table.
  have looked : Ends (reply handlers attempts) (ask (.tableEntry (tableIndex va))) before
      (.ok (before.cpu.tableEntry (tableIndex va))) before := ends_ask.mpr rfl
  refine ends_bind_iff.mpr (.inl ⟨_, _, looked, ?_⟩)
  split
  · -- The raw entry is zero if nothing is mapped.
    have read : Ends (reply handlers attempts) (ask (.pageEntry (pageNumber va))) before
        (.ok (before.cpu.pageEntry (pageNumber va))) before := ends_ask.mpr rfl
    refine ends_bind_iff.mpr (.inl ⟨_, _, read, ends_pure.mpr ⟨?_, rfl⟩⟩)
    rw [runs.pageEntry_eq (pageNumber_mul (toNat_pageNumber_lt va))]
    cases found : before.cpu.kernel.memory.entryAt? space va with
    | none => rfl
    | some entry =>
      simp only [Option.map_some, Option.getD_some]
      rw [PageEntry.raw_and_permitted (permitted space va entry found)]
  · -- Without a page table nothing is mapped.
    rename_i absent
    refine ends_pure.mpr ⟨?_, rfl⟩
    cases found : before.cpu.kernel.memory.entryAt? space va with
    | none => rfl
    | some entry =>
      obtain ⟨frame, there⟩ := Option.isSome_iff_exists.mp
        (runs.coupled.settled.memory.tableFrame?_isSome found)
      simp [Machine.tableEntry, runs.active, there, isPresent_tableEntry] at absent

/-- A load of a range without a refused address gives its bytes at once. -/
theorem ends_load_of_granted (runs : before.cpu.Runs slot space) {va : Address} {length : Nat}
    (granted : ∀ offset < length,
      before.cpu.refusal? false (va + UInt32.ofNat offset) = none) :
    Ends (reply handlers (attempts + 1)) (load va length) before
      (.ok ((addressRange va length).map (before.cpu.kernel.memory.byteAt space))) before := by
  have loaded : Cpu.access before.cpu (.load va length) = _ :=
    Machine.load_of_granted runs.current runs.active granted
  -- The first attempt succeeds, and no handler is called.
  refine ends_load.mpr ?_
  simp only [reply, Request.reply, serveAccess, loaded]

/-- A store to a range without a refused address is made at once. -/
theorem ends_store_of_granted (runs : before.cpu.Runs slot space) {va : Address}
    {data : List UInt8} (granted : ∀ offset < data.length,
      before.cpu.refusal? true (va + UInt32.ofNat offset) = none) :
    ∃ after, Ends (reply handlers (attempts + 1)) (store va data) before (.ok ()) after ∧
      Stays before after slot space ∧
      before.cpu.kernel.memory.copyOut space va data = (.ok (), after.cpu.kernel.memory) := by
  have stored : Cpu.access before.cpu (.store va data) = (.ok [], { before.cpu with
      kernel := { before.cpu.kernel with
        memory := (before.cpu.kernel.memory.copyOut space va data).2 } }) := by
    -- No address is refused, so that the processor writes at once.
    have plain := Machine.store_of_granted runs.current runs.active granted
    simp only [Cpu.access, plain]
    rfl
  have written := Memory.copyOut_ok (Machine.mapped_of_granted runs.active granted)
  refine ⟨{ before with cpu := { before.cpu with kernel := { before.cpu.kernel with
    memory := (before.cpu.kernel.memory.copyOut space va data).2 } } }, ends_store.mpr ⟨[], ?_⟩,
    ⟨(runs.copyOut va data).1, rfl, rfl, rfl⟩, Prod.ext written rfl⟩
  simp only [reply, Request.reply, serveAccess, stored]

end Program

end Exokernel
