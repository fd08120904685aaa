import Exokernel.Proofs.Delivery
import Exokernel.Proofs.Memory.Private
import Exokernel.Proofs.PageCalls
import Exokernel.Proofs.User.Programs
import Exokernel.User.Fork

/-! The handler that copies a page, when all its own accesses are granted. -/

namespace Exokernel

/-- The flags of an entry are read back from its raw form. -/
theorem PageEntry.raw_and_permitted {entry : PageEntry}
    (allowed : entry.flags.isUserPermission = true) :
    entry.raw &&& PageFlags.permitted.bits = entry.flags.bits := by
  -- The address of a frame has no low bits, and the permitted flags have no high ones.
  simp only [PageFlags.isUserPermission, Bool.and_eq_true] at allowed
  have inside := PageFlags.contains_iff.mp allowed.2
  have aligned (index : Nat) (low : index < 12) :
      (frameAddress entry.frame).toBitVec.getLsbD index = false := by
    have shifted : (frameAddress entry.frame).toBitVec =
        BitVec.ofNat 32 (entry.frame * 2 ^ 12) := rfl
    rw [shifted, BitVec.getLsbD_ofNat, Nat.testBit_mul_two_pow]
    simp [show ¬12 ≤ index by omega]
  refine UInt32.toBitVec_inj.mp (BitVec.eq_of_getLsbD_eq fun index _ => ?_)
  simp only [PageEntry.raw, UInt32.toBitVec_and, UInt32.toBitVec_or, BitVec.getLsbD_and,
    BitVec.getLsbD_or]
  by_cases low : index < 12
  · rw [aligned index low, Bool.false_or]
    have subset := inside index
    cases bit : entry.flags.bits.toBitVec.getLsbD index <;> simp_all
  · have above : PageFlags.permitted.bits.toBitVec.getLsbD index = false := by
      have small : PageFlags.permitted.bits.toBitVec.toNat < 2 ^ index :=
        Nat.lt_of_lt_of_le (show _ < 2 ^ 12 by decide) (Nat.pow_le_pow_right (by decide) (by omega))
      exact Nat.testBit_lt_two_pow small
    have subset := inside index
    cases bit : entry.flags.bits.toBitVec.getLsbD index <;> simp_all

/-- The raw entry of a page of the space in use. -/
theorem Machine.Runs.pageEntry_eq {machine : Machine} {slot : Slot} {space : SpaceHandle}
    (runs : machine.Runs slot space) {page : Word} {va : Address}
    (here : pageNumber (page * pageSize) = pageNumber va) :
    machine.pageEntry page =
      ((machine.kernel.memory.entryAt? space va).map PageEntry.raw).getD 0 := by
  -- Entries are the same for all addresses of a page.
  rw [← Memory.entryAt?_congr here]
  simp only [Machine.pageEntry, runs.active, Option.bind_some]
  split <;> rename_i found <;> rw [found] <;> rfl

/-- An address is not refused where its page is mapped, for writing if it is to be written. -/
theorem Machine.Runs.granted {machine : Machine} {slot : Slot} {space : SpaceHandle}
    (runs : machine.Runs slot space) (permitted : machine.kernel.memory.Permitted)
    {write : Bool} {va : Address} {entry : PageEntry}
    (found : machine.kernel.memory.entryAt? space va = some entry)
    (writable : write = true → entry.flags.contains .writable = true) :
    machine.refusal? write va = none := by
  -- Entries are in user memory, and all permissions include the one for user mode.
  obtain ⟨table, named, mapped⟩ := Option.bind_eq_some_iff.mp found
  have below := (runs.coupled.settled.memory.tables space table named).below _ _ mapped
  have user : entry.flags.contains .user = true := by
    have allowed := permitted space va entry found
    rw [PageFlags.isUserPermission, Bool.and_eq_true] at allowed
    exact (PageFlags.contains_or_iff.mp allowed.1).2
  refine refusal?_eq_none.mpr ⟨space, entry, runs.active, ?_, found, ?_⟩
  · rw [UInt32.lt_iff_toNat_lt, toNat_userTop]
    rw [toNat_pageNumber] at below
    simp only [userPageCount] at below
    omega
  · cases write with
    | false => exact user
    | true => exact PageFlags.contains_or_iff.mpr ⟨user, writable rfl⟩

namespace Program

variable {η : Type} {handlers : Handlers η} {attempts : Nat} {before after : UserState η Machine}
  {slot : Slot} {space : SpaceHandle}

/-- How requests are answered on a machine, with at most so many tries for each access. -/
abbrev reply (handlers : Handlers η) (attempts : Nat) :
    (request : Request η) → UserState η Machine → Option (request.Answer × UserState η Machine) :=
  Request.reply (serveAccess handlers attempts)

/-- An access that is not refused is made in place, unless no try is left. -/
theorem serveAccess_of_ok {use : Access} {bytes : List UInt8} {machine : Machine}
    {outcome : Except UserError (List UInt8) × UserState η Machine}
    (granted : Cpu.access before.cpu use = (.ok bytes, machine))
    (served : serveAccess handlers attempts use before = some outcome) :
    outcome = (.ok bytes, { before with cpu := machine }) := by
  -- No handler comes between.
  cases attempts with
  | zero => simp [serveAccess] at served
  | succ attempts =>
    simp only [serveAccess, granted, Option.some.injEq] at served
    exact served.symm

/-- Between two states the same environment runs, with the same library and stack pointer. -/
structure Continues (before after : UserState η Machine) (slot : Slot) (space : SpaceHandle) :
    Prop where
  /-- The environment runs. -/
  runs : after.cpu.Runs slot space
  /-- Nobody got another id, space or stack pointer. -/
  outline_eq : after.cpu.outline = before.cpu.outline
  /-- The library is the same. -/
  library_eq : after.library = before.library

/-- An environment that goes on twice goes on. -/
theorem Continues.trans {middle : UserState η Machine}
    (first : Continues before middle slot space) (second : Continues middle after slot space) :
    Continues before after slot space where
  runs := second.runs
  outline_eq := second.outline_eq.trans first.outline_eq
  library_eq := second.library_eq.trans first.library_eq

/-- A command that ends well has made its call, which was answered without an error. -/
theorem ends_syscall {call : Syscall} {words : Arguments}
    (ends : Ends (reply handlers attempts) (command call words) before (.ok ()) after) :
    ∃ word, before.cpu.syscall call words = (.ok word, after.cpu) ∧
      SysError.ofWord? word = none ∧ after.library = before.library := by
  -- Its reply is the machine's own answer, and the library takes no part in it.
  obtain ⟨word, answered, fine⟩ := ends_command.mp ends
  rw [reply, Request.reply] at answered
  simp only [Option.some.injEq, Prod.mk.injEq] at answered
  obtain ⟨value, state⟩ := answered
  rw [← state]
  exact ⟨word, Prod.ext value rfl, fine, rfl⟩

/-- A fresh page has been mapped if the library's request ends well. -/
theorem ends_allocPage (runs : before.cpu.Runs slot space) {env : EnvId} {va : Address}
    {flags : PageFlags}
    (ends : Ends (reply handlers attempts) (allocPage env va flags) before (.ok ()) after) :
    ∃ handle, before.cpu.addressed space env = some handle ∧ flags.isUserPermission = true ∧
      before.cpu.kernel.memory.mapFresh handle va flags = (.ok (), after.cpu.kernel.memory) ∧
      Continues before after slot space := by
  -- It ends well as its call does.
  obtain ⟨word, answered, fine, library⟩ := ends_syscall ends
  obtain ⟨handle, memory, named, allowed, made, resumes⟩ := runs.allocPage_ok answered fine
  exact ⟨handle, named, allowed, resumes.memory_eq ▸ made, resumes.runs, resumes.outline_eq,
    library⟩

/-- A page has been mapped again if the library's request ends well. -/
theorem ends_mapPage (runs : before.cpu.Runs slot space) {source target : EnvId}
    {sourceVa targetVa : Address} {flags : PageFlags}
    (ends : Ends (reply handlers attempts) (mapPage source sourceVa target targetVa flags) before
      (.ok ()) after) : ∃ sourceSpace targetSpace frame held,
      before.cpu.addressed space source = some sourceSpace ∧
      before.cpu.addressed space target = some targetSpace ∧
      before.cpu.kernel.memory.entryAt? sourceSpace sourceVa = some { frame, flags := held } ∧
      flags.isUserPermission = true ∧
      before.cpu.kernel.memory.map targetSpace targetVa frame flags =
        (.ok (), after.cpu.kernel.memory) ∧ Continues before after slot space := by
  -- It ends well as its call does.
  obtain ⟨word, answered, fine, library⟩ := ends_syscall ends
  obtain ⟨sourceSpace, targetSpace, frame, held, memory, sourceNamed, targetNamed, offered, allowed,
    mapped, resumes⟩ := runs.mapPage_ok answered fine
  exact ⟨sourceSpace, targetSpace, frame, held, sourceNamed, targetNamed, offered, allowed,
    resumes.memory_eq ▸ mapped, resumes.runs, resumes.outline_eq, library⟩

/-- A mapping has been removed if the library's request ends well. -/
theorem ends_unmapPage (runs : before.cpu.Runs slot space) {env : EnvId} {va : Address}
    (ends : Ends (reply handlers attempts) (unmapPage env va) before (.ok ()) after) :
    ∃ handle, before.cpu.addressed space env = some handle ∧
      after.cpu.kernel.memory = (before.cpu.kernel.memory.unmap handle va).2 ∧
      Continues before after slot space := by
  -- It ends well as its call does.
  obtain ⟨word, answered, fine, library⟩ := ends_syscall ends
  obtain ⟨handle, named, resumes⟩ := runs.unmapPage_ok answered fine
  exact ⟨handle, named, resumes.memory_eq, resumes.runs, resumes.outline_eq, library⟩

/-- A page's permission is that of its entry; without one it is empty. -/
theorem ends_permissionAt (runs : before.cpu.Runs slot space)
    (permitted : before.cpu.kernel.memory.Permitted) {va : Address} {flags : PageFlags}
    (ends : Ends (reply handlers attempts) (permissionAt va) before (.ok flags) after) :
    after = before ∧ (flags = .empty ∨ ∃ entry,
      before.cpu.kernel.memory.entryAt? space va = some entry ∧ flags = entry.flags) := by
  -- A raw entry is empty where nothing is mapped, and without a table it is not looked at.
  obtain ⟨index, middle, looked, rest⟩ := ends_bind.mp ends
  obtain ⟨-, rfl⟩ := ends_asked rfl looked
  split at rest
  · obtain ⟨raw, middle, read, last⟩ := ends_bind.mp rest
    obtain ⟨entry_eq, rfl⟩ := ends_asked rfl read
    obtain ⟨result, rfl⟩ := ends_pure.mp last
    simp only [Except.ok.injEq] at result
    refine ⟨rfl, ?_⟩
    change Machine.pageEntry _ (pageNumber va) = raw at entry_eq
    rw [runs.pageEntry_eq (pageNumber_mul (toNat_pageNumber_lt va))] at entry_eq
    rcases looked : Memory.entryAt? _ space va with _ | entry <;> rw [looked] at entry_eq
    · rw [Option.map_none, Option.getD_none] at entry_eq
      rw [result, ← entry_eq]
      exact .inl (congrArg PageFlags.mk UInt32.zero_and)
    · rw [Option.map_some, Option.getD_some] at entry_eq
      rw [result, ← entry_eq, PageEntry.raw_and_permitted (permitted space va entry looked)]
      exact .inr ⟨entry, rfl, rfl⟩
  · obtain ⟨result, rfl⟩ := ends_pure.mp rest
    simp only [Except.ok.injEq] at result
    exact ⟨rfl, .inl result⟩

/-- A load of a range without a refused address gives its bytes. -/
theorem ends_load_granted (runs : before.cpu.Runs slot space) {va : Address} {length : Nat}
    (granted : ∀ offset < length,
      before.cpu.refusal? false (va + UInt32.ofNat offset) = none) {bytes : List UInt8}
    (ends : Ends (reply handlers attempts) (load va length) before (.ok bytes) after) :
    after = before ∧
      bytes = (addressRange va length).map (before.cpu.kernel.memory.byteAt space) := by
  -- The first try is made in place, so that no fault is ever served.
  have served := ends_load.mp ends
  have loaded : Cpu.access before.cpu (.load va length) =
      (.ok ((addressRange va length).map (before.cpu.kernel.memory.byteAt space)), before.cpu) :=
    Machine.load_of_granted runs.current runs.active granted
  have outcome := serveAccess_of_ok loaded served
  simp only [Prod.mk.injEq, Except.ok.injEq] at outcome
  exact ⟨outcome.2, outcome.1⟩

/-- A store to a range without a refused address writes its bytes and nothing else. -/
theorem ends_store_granted (runs : before.cpu.Runs slot space) {va : Address} {data : List UInt8}
    (granted : ∀ offset < data.length,
      before.cpu.refusal? true (va + UInt32.ofNat offset) = none)
    (ends : Ends (reply handlers attempts) (store va data) before (.ok ()) after) :
    before.cpu.kernel.memory.copyOut space va data = (.ok (), after.cpu.kernel.memory) ∧
      Continues before after slot space := by
  -- As with a load, the first try is made in place.
  obtain ⟨bytes, served⟩ := ends_store.mp ends
  have stored : Cpu.access before.cpu (.store va data) = (.ok [], { before.cpu with
      kernel := { before.cpu.kernel with
        memory := (before.cpu.kernel.memory.copyOut space va data).2 } }) := by
    have plain := Machine.store_of_granted runs.current runs.active granted
    simp only [Cpu.access, plain]
    rfl
  have outcome := serveAccess_of_ok stored served
  simp only [Prod.mk.injEq, Except.ok.injEq] at outcome
  obtain ⟨-, rfl⟩ := outcome
  have mapped := Machine.mapped_of_granted runs.active granted
  obtain ⟨again, outline⟩ := runs.copyOut va data
  exact ⟨Prod.ext (Memory.copyOut_ok mapped) rfl, again, outline, rfl⟩

/-- The handler copies only a page that is mapped. -/
theorem copies_of_ends {fault : FaultRecord} (runs : before.cpu.Runs slot space)
    (permitted : before.cpu.kernel.memory.Permitted)
    (ends : Ends (reply handlers attempts) (copyOnWrite fault) before (.ok ()) after) :
    (∃ old, before.cpu.kernel.memory.entryAt? space (pageBase fault.address) = some old) ∧
      Ends (reply handlers attempts) (do
        allocPage .self copyPage .readWrite
        store copyPage (← load (pageBase fault.address) pageLength)
        mapPage .self copyPage .self (pageBase fault.address) .readWrite
        unmapPage .self copyPage) before (.ok ()) after := by
  unfold copyOnWrite at ends
  split at ends
  · simp [ends_throw] at ends
  obtain ⟨flags, looked, asked, rest⟩ := ends_bind.mp ends
  obtain ⟨rfl, held⟩ := ends_permissionAt runs permitted asked
  dsimp only at rest
  split at rest
  case isFalse => simp [ends_throw] at rest
  rename_i marked
  -- Only a page that is mapped has the mark.
  obtain ⟨old, mapped, -⟩ := held.resolve_left (by rintro rfl; exact absurd marked (by decide))
  exact ⟨⟨old, mapped⟩, rest⟩

/-- The handler moves the page of the fault to a fresh frame, with all its bytes. -/
theorem ends_copyOnWrite {fault : FaultRecord} (runs : before.cpu.Runs slot space)
    (permitted : before.cpu.kernel.memory.Permitted)
    (vacant : before.cpu.kernel.memory.entryAt? space copyPage = none)
    (ends : Ends (reply handlers attempts) (copyOnWrite fault) before (.ok ()) after) :
    Continues before after slot space ∧ ∃ frame ∈ before.cpu.kernel.memory.pool.free,
      Memory.Installs before.cpu.kernel.memory after.cpu.kernel.memory space
        (pageBase fault.address) (some { frame, flags := .readWrite }) ∧
      ∀ va, pageNumber va = pageNumber (pageBase fault.address) →
        (before.cpu.kernel.memory.entryAt? space va).isSome = true ∧
        after.cpu.kernel.memory.byteAt space va = before.cpu.kernel.memory.byteAt space va := by
  obtain ⟨⟨old, mapped⟩, copies⟩ := copies_of_ends runs permitted ends
  have aligned := isAligned_pageBase fault.address
  have copyAligned : isAligned copyPage = true := by decide
  generalize pageBase fault.address = page at *
  -- A fresh page appears at the copy page.
  obtain ⟨⟨⟩, made, allocating, loads⟩ := ends_bind.mp copies
  obtain ⟨handle, named, allowed, fresh, first⟩ := ends_allocPage runs allocating
  obtain rfl : space = handle := Option.some.inj named
  obtain ⟨frame, free, making⟩ := Memory.installs_mapFresh fresh
  rw [PageFlags.or_present allowed] at making
  have madePermitted := making.permitted permitted (by rintro _ ⟨⟩; exact allowed)
  -- The page to be copied is still mapped, since the copy page was not.
  have apart : pageNumber page ≠ pageNumber copyPage := by
    intro same
    rw [Memory.entryAt?_congr same, vacant] at mapped
    simp at mapped
  have stillMapped : made.cpu.kernel.memory.entryAt? space page = some old := by
    rw [making.entryAt?_eq (.inr apart), mapped]
  obtain ⟨bytes, loaded, reading, stores⟩ := ends_bind.mp loads
  obtain ⟨same, contents⟩ := ends_load_granted first.runs (fun offset inside => by
    have here : made.cpu.kernel.memory.entryAt? space (page + UInt32.ofNat offset) = some old := by
      rw [Memory.entryAt?_congr (pageNumber_add_offset aligned inside), stillMapped]
    exact first.runs.granted madePermitted here (by simp)) reading
  subst same
  -- The bytes go to the copy page.
  obtain ⟨⟨⟩, stored, writing, maps⟩ := ends_bind.mp stores
  have length : bytes.length = 4096 := by rw [contents]; simp [addressRange]
  obtain ⟨written, second⟩ := ends_store_granted first.runs (fun offset inside => by
    have here : loaded.cpu.kernel.memory.entryAt? space (copyPage + UInt32.ofNat offset) =
        some { frame, flags := .readWrite } := by
      rw [making.here, if_pos (pageNumber_add_offset copyAligned (length ▸ inside))]
    exact first.runs.granted madePermitted here
      fun _ => (by decide : PageFlags.readWrite.contains .writable = true)) writing
  rw [contents] at written
  -- The new frame moves to the page.
  obtain ⟨⟨⟩, placed, mapping, unmapping⟩ := ends_bind.mp maps
  obtain ⟨source, target, moved, held, sourceNamed, targetNamed, offered, -, mappedAgain, third⟩ :=
    ends_mapPage second.runs mapping
  obtain rfl : space = source := Option.some.inj sourceNamed
  obtain rfl : space = target := Option.some.inj targetNamed
  obtain ⟨last, lastNamed, removed, fourth⟩ := ends_unmapPage third.runs unmapping
  obtain rfl : space = last := Option.some.inj lastNamed
  refine ⟨first.trans (second.trans (third.trans fourth)), moved, ?_⟩
  obtain ⟨installs, fromFree, same⟩ := Memory.installs_copied runs.coupled.settled.memory vacant
    mapped aligned fresh written first.runs.backed offered
    (second.runs.coupled.settled.memory.not_mem_free_of_entry offered) mappedAgain
  rw [removed]
  exact ⟨fromFree, installs, fun va inPage =>
    ⟨by rw [Memory.entryAt?_congr inPage, mapped]; rfl, same va inPage⟩⟩

end Program

end Exokernel
