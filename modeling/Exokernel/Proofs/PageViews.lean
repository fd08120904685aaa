import Exokernel.Proofs.Memory.UserRanges
import Exokernel.Proofs.Preemption
import Exokernel.Proofs.Reachable
import Exokernel.Proofs.User.Outcomes

/-! The page tables that user code reads as raw words tell exactly what is mapped. -/

namespace Exokernel

/-- A frame below the last one that words can address has its address. -/
theorem toNat_frameAddress {frame : Nat} (small : frame < 1048576) :
    (frameAddress frame).toNat = frame * pageLength := by
  -- The product does not reach the end of all addresses.
  rw [frameAddress, UInt32.toNat_ofNat']
  exact Nat.mod_eq_of_lt (show frame * 4096 < 2 ^ 32 by omega)

/-- Flags in the low bits of a word add up with the address of a frame. -/
theorem toNat_frameAddress_or {frame : Nat} {flags : Word} (small : frame < 1048576)
    (low : flags.toNat < pageLength) :
    (frameAddress frame ||| flags).toNat = frame * pageLength + flags.toNat := by
  -- The address ends in twelve zeros, and the flags take no more than these.
  have joined := Nat.two_pow_add_eq_or_of_lt (show flags.toNat < 2 ^ 12 from low) frame
  rw [UInt32.toNat_or, toNat_frameAddress small]
  show frame * 4096 ||| flags.toNat = frame * 4096 + flags.toNat
  rw [Nat.mul_comm]
  exact joined.symm

/-- A word with a frame's address and flags has both parts read back. -/
theorem split_frameAddress_or {frame : Nat} {flags : Word} (small : frame < 1048576)
    (low : flags.toNat < pageLength) :
    (entryAddress (frameAddress frame ||| flags)).toNat = frame * pageLength ∧
      (frameAddress frame ||| flags) % pageSize = flags := by
  have length : pageLength = 4096 := rfl
  -- The parts do not overlap, so that joining them adds them up.
  have joined : (frameAddress frame ||| flags).toNat = frame * 4096 + flags.toNat :=
    toNat_frameAddress_or small low
  constructor
  · rw [entryAddress, toNat_pageBase, joined]
    show _ = frame * 4096
    omega
  · refine UInt32.toNat_inj.mp ?_
    rw [UInt32.toNat_mod, joined, toNat_pageSize]
    omega

/-- Whatever user code may ask for fits below the address. -/
theorem PageFlags.toNat_bits_lt {flags : PageFlags} (allowed : flags.isUserPermission = true) :
    flags.bits.toNat < pageLength := by
  simp only [isUserPermission, Bool.and_eq_true] at allowed
  have inside : permitted.bits &&& flags.bits = flags.bits := beq_iff_eq.mp allowed.2
  -- Flags that are permitted are some of the permitted bits, all of which are low.
  have bound : (permitted.bits &&& flags.bits).toNat ≤ permitted.bits.toNat := by
    rw [UInt32.toNat_and]
    exact Nat.and_le_left
  rw [inside] at bound
  exact bound.trans_lt (by decide)

/-- The raw entry of a mapped page is not zero, because it is present. -/
theorem PageEntry.raw_ne_zero {entry : PageEntry}
    (allowed : entry.flags.isUserPermission = true) : entry.raw ≠ 0 := by
  intro zero
  -- A zero would have no flags, and at least one is asked for.
  have flags := PageEntry.raw_and_permitted allowed
  rw [zero, UInt32.zero_and] at flags
  have none_ : entry.flags = .empty := PageFlags.eq_of_bits_eq flags.symm
  rw [none_] at allowed
  exact absurd allowed (by decide)

/-- The list of a page table's mappings has every page that is mapped, by its first address. -/
theorem PageTable.Sound.mem_mappings {table : PageTable} (sound : table.Sound) {va : Address}
    {entry : PageEntry} : (va, entry) ∈ table.mappings ↔
      isAligned va = true ∧ table.entryAt? va = some entry := by
  rw [mappings, List.mem_map, entryAt?]
  constructor
  · rintro ⟨⟨page, mapped⟩, member, same⟩
    obtain ⟨rfl, rfl⟩ := Prod.mk.inj same
    have found := (table.entries.find?_eq_some_iff page mapped).mpr member
    -- Page numbers are small, so that a page is found again by its first address.
    have below := sound.below page mapped found
    have user : userPageCount = 977920 := rfl
    exact ⟨isAligned_mul page, by rw [pageNumber_mul (by omega), found]⟩
  · -- An aligned address is the first one of its page.
    rintro ⟨aligned, found⟩
    refine ⟨(pageNumber va, entry), (table.entries.find?_eq_some_iff _ _).mp found, ?_⟩
    have start := toNat_mod_of_isAligned aligned
    have bound := va.toNat_lt
    refine Prod.ext (UInt32.toNat_inj.mp ?_) rfl
    show _ = va.toNat
    rw [UInt32.toNat_mul, toNat_pageNumber, toNat_pageSize]
    omega

namespace Memory

variable {memory : Memory} {handle : SpaceHandle} {size : Nat}

/-- The frame of a page table belongs to the tables, and so is mapped nowhere. -/
theorem Sound.unmapped_of_tableFrame? (sound : memory.Sound size 0) {index : Word}
    {frame : FrameNumber} (found : memory.tableFrame? handle index = some frame) :
    frame < size ∧ ∀ other va entry,
      memory.entryAt? other va = some entry → entry.frame ≠ frame := by
  -- The frame is counted among those that the tables are made of.
  have own : frame ∈ memory.ownFrames := by
    obtain ⟨table, named, there⟩ := Option.bind_eq_some_iff.mp found
    have inRange := Nat.le_of_lt (index_lt_of_table? named)
    rw [ownFrames, memory.total_eq_add _ inRange, named]
    refine Multiset.mem_add.mpr (.inl (Multiset.mem_coe.mpr ?_))
    exact List.mem_append_left _ ((table.tables.mem_values_iff frame).mpr ⟨index, there⟩)
  refine ⟨sound.accounted.balanced.lt_size (Multiset.mem_add.mpr (.inl own)), ?_⟩
  rintro other va entry mapped rfl
  exact Multiset.disjoint_left.mp sound.accounted.own_disjoint own (mem_leaves mapped)

/-- The list of an environment's mappings is that of its space. -/
theorem Sound.mem_mappingsOf {kernel : Kernel} {held : Multiset FrameNumber}
    (sound : kernel.memory.Sound size held) {id : EnvId} {env : Env}
    (found : kernel.env? id = some env) {va : Address} {entry : PageEntry} :
    (va, entry) ∈ kernel.mappingsOf env ↔
      isAligned va = true ∧ kernel.entryOf id va = some entry := by
  rw [Kernel.mappingsOf, Kernel.entryOf, Kernel.space?, found, Option.bind_some]
  -- Without a space, or without a table, there are no entries at all.
  cases env.space with
  | none => simp
  | some handle =>
    simp only [mappings, Option.bind_some, entryAt?]
    cases named : kernel.memory.table? handle with
    | none => simp
    | some table => exact (sound.tables handle table named).mem_mappings

end Memory

namespace Machine

variable {machine : Machine} {slot : Slot} {space : SpaceHandle}

/-- A machine keeps what its kernel was told at boot. -/
theorem config_after (config : Config) (events : List MachineEvent) :
    (after config events).kernel.config = config := by
  -- Induct on the events, the last one last: each is at most one event of the kernel.
  induction events using List.reverseRecOn with
  | nil => rfl
  | append_singleton events event ih =>
    have coupled := coupled_after config events
    rw [after, List.foldl_append, ← after, List.foldl_cons, List.foldl_nil]
    rcases coupled.kernel_step event with same | ⟨entry, entered⟩
    · rw [same, ih]
    · rw [entered, coupled.settled.config_step, ih]

/-- What user code can read about page tables is what is mapped. -/
structure ShowsPages (machine : Machine) (user : EnvId) : Prop where
  /-- Every page that is mapped anywhere is one of user memory, with flags that may be asked for. -/
  mapped : ∀ id env, machine.kernel.env? id = some env → ∀ va entry,
    (va, entry) ∈ machine.kernel.mappingsOf env → isAligned va = true ∧ va < userTop ∧
      entry.flags.contains .required = true ∧ (⟨0xe07⟩ : PageFlags).contains entry.flags = true
  /-- These are all the pages that are mapped. -/
  listed : ∀ id env, machine.kernel.env? id = some env → ∀ va entry,
    (va, entry) ∈ machine.kernel.mappingsOf env ↔
      isAligned va = true ∧ machine.kernel.entryOf id va = some entry
  /-- The raw entry of a page is zero exactly if the user has not mapped it. -/
  present : ∀ page : Word, page.toNat < 1048576 →
    (machine.pageEntry page ≠ 0 ↔ (machine.kernel.entryOf user (page * pageSize)).isSome = true)
  /-- Otherwise it is made up of the address of the frame, and of the flags. -/
  encodes : ∀ page : Word, page.toNat < 1048576 → ∀ entry,
    machine.kernel.entryOf user (page * pageSize) = some entry →
      (entryAddress (machine.pageEntry page)).toNat = entry.frame * pageLength ∧
        machine.pageEntry page % pageSize = entry.flags.bits
  /-- Then the directory leads to a page table, in a frame of the pool that nobody has mapped. -/
  tables : ∀ page : Word, page.toNat < 1048576 → machine.pageEntry page ≠ 0 →
    Program.isPresent (machine.tableEntry (page / 1024)) = true ∧
      ∃ frame < machine.kernel.config.frames,
        (entryAddress (machine.tableEntry (page / 1024))).toNat = frame * pageLength ∧
          ∀ handle va entry, machine.kernel.memory.entryAt? handle va = some entry →
            entry.frame ≠ frame

namespace Runs

/-- The environment that runs has the mappings of its space. -/
theorem entryOf_eq (runs : machine.Runs slot space) (va : Address) :
    machine.kernel.entryOf (machine.kernel.envAt slot).id va =
      machine.kernel.memory.entryAt? space va := by
  -- It is found by its id, and has that space.
  have found : machine.kernel.env? (machine.kernel.envAt slot).id =
      some (machine.kernel.envAt slot) :=
    Kernel.env?_eq_some.mpr ⟨by rw [runs.slot_id], Env.isLive_of_isRunnable runs.ready, rfl⟩
  rw [Kernel.entryOf, Kernel.space?, found, Option.bind_some, runs.held, Option.bind_some]

/-- A page-directory entry leads to the page table, if it is there. -/
theorem tableEntry_eq (runs : machine.Runs slot space) (index : Word) :
    machine.tableEntry index = ((machine.kernel.memory.tableFrame? space index).map
      fun frame => frameAddress frame ||| PageFlags.readWrite.bits).getD 0 := by
  -- The space in use is the one of the running environment.
  simp only [tableEntry, runs.active, Option.bind_some]
  split <;> rename_i found <;> rw [found] <;> rfl

/-- Of a page that is mapped, all that user code reads is right. -/
theorem encodes_of_entry (runs : machine.Runs slot space)
    (permitted : machine.kernel.memory.Permitted) (small : machine.kernel.config.frames ≤ 1048576)
    {page : Word} (inside : page.toNat < 1048576) {entry : PageEntry}
    (found : machine.kernel.memory.entryAt? space (page * pageSize) = some entry) :
    machine.pageEntry page ≠ 0 ∧
      (entryAddress (machine.pageEntry page)).toNat = entry.frame * pageLength ∧
      machine.pageEntry page % pageSize = entry.flags.bits ∧
      Program.isPresent (machine.tableEntry (page / 1024)) = true ∧
      ∃ frame < machine.kernel.config.frames,
        (entryAddress (machine.tableEntry (page / 1024))).toNat = frame * pageLength ∧
          ∀ handle va entry, machine.kernel.memory.entryAt? handle va = some entry →
            entry.frame ≠ frame := by
  have sound := runs.coupled.settled.memory
  have allowed := permitted space _ entry found
  have raw : machine.pageEntry page = entry.raw := by
    rw [runs.pageEntry_eq rfl, found]
    rfl
  have exists_ : entry.frame < 1048576 := by
    have handed := sound.accounted.balanced.lt_size
      (Multiset.mem_add.mpr (.inr (Memory.mem_leaves found)))
    exact handed.trans_le ((FramePool.listed_le _).trans small)
  -- Frame and flags are in different bits of the entry, so that both can be read.
  obtain ⟨address, flags⟩ := split_frameAddress_or exists_ (PageFlags.toNat_bits_lt allowed)
  -- A page that is mapped has its page table, whose index is part of the page's number.
  have index : tableIndex (page * pageSize) = page / 1024 := by
    rw [tableIndex_eq, pageNumber_mul inside]
  obtain ⟨frame, there⟩ := Option.isSome_iff_exists.mp (sound.tableFrame?_isSome found)
  rw [index] at there
  obtain ⟨handed, nowhere⟩ := sound.unmapped_of_tableFrame? there
  have within := handed.trans_le (FramePool.listed_le machine.kernel.config.frames)
  have table := runs.tableEntry_eq (page / 1024)
  rw [there, Option.map_some, Option.getD_some] at table
  have low : PageFlags.readWrite.bits.toNat < pageLength := by decide
  have high : frame < 1048576 := within.trans_le small
  rw [raw, table]
  exact ⟨PageEntry.raw_ne_zero allowed, address, flags, Program.isPresent_tableEntry frame,
    frame, within, (split_frameAddress_or high low).1, nowhere⟩

end Runs

/-- Wherever a machine has got to, user code reads the truth about what it has mapped. -/
theorem showsPages_after (config : Config) (events : List MachineEvent) (user : EnvId)
    (small : config.frames ≤ 1048576)
    (running : (after config events).current = some user) :
    (after config events).ShowsPages user := by
  have coupled := coupled_after config events
  have permitted := permitted_after config events
  have told := config_after config events
  generalize after config events = machine at *
  -- The tables that user code reads are those of the space in use, which is its own.
  obtain ⟨slot, space, runs, rfl⟩ := coupled.runs_of_running running
  have sound := coupled.settled.memory
  have fits : machine.kernel.config.frames ≤ 1048576 := told ▸ small
  -- What user code reads of a page is the entry of its own table, which has frame and flags.
  have encodes (page : Word) (inside : page.toNat < 1048576) (entry : PageEntry)
      (found : machine.kernel.entryOf (machine.kernel.envAt slot).id (page * pageSize) =
        some entry) :=
    runs.encodes_of_entry permitted fits inside ((runs.entryOf_eq _).symm.trans found)
  have present (page : Word) (inside : page.toNat < 1048576) : machine.pageEntry page ≠ 0 ↔
      (machine.kernel.entryOf (machine.kernel.envAt slot).id (page * pageSize)).isSome = true := by
    cases found : machine.kernel.entryOf (machine.kernel.envAt slot).id (page * pageSize) with
    | some entry => exact iff_of_true (encodes page inside entry found).1 rfl
    | none =>
      rw [runs.entryOf_eq] at found
      rw [runs.pageEntry_eq rfl, found]
      simp
  refine ⟨fun id env found va entry member => ?_, fun _ _ found _ _ => sound.mem_mappingsOf found,
    present, fun page inside entry found => ?_, fun page inside there => ?_⟩
  · -- Whatever is listed is a page of user memory, with a permission that can be asked for.
    obtain ⟨aligned, mapped⟩ := (sound.mem_mappingsOf found).mp member
    obtain ⟨handle, -, mapped⟩ := Option.bind_eq_some_iff.mp mapped
    have allowed := permitted handle va entry mapped
    rw [PageFlags.isUserPermission, Bool.and_eq_true] at allowed
    exact ⟨aligned, sound.lt_userTop mapped, allowed⟩
  · obtain ⟨-, address, flags, -⟩ := encodes page inside entry found
    exact ⟨address, flags⟩
  · obtain ⟨entry, found⟩ := Option.isSome_iff_exists.mp ((present page inside).mp there)
    exact (encodes page inside entry found).2.2.2

/-- Two environments, of which the boot picks the one behind slot zero. -/
def pairCreated : Machine := after { frames := 16 } [.create ⟨0, []⟩, .create ⟨0, []⟩, .boot]

/-- It has the page of its stack in frame four, by a table in frame five, and no page of code. -/
theorem showsPages_stack : pairCreated.ShowsPages ⟨4097⟩ ∧
    pairCreated.pageEntry 0xeebfd = 4 * 4096 + 7 ∧
    pairCreated.tableEntry (0xeebfd / 1024) = 5 * 4096 + 7 ∧ pairCreated.pageEntry 0x800 = 0 := by
  -- Frames are handed out in order, page directories and tables among them.
  have running : pairCreated.current = some ⟨4097⟩ := by decide +kernel
  have small : ({ frames := 16 } : Config).frames ≤ 1048576 := by decide
  have shows : pairCreated.ShowsPages ⟨4097⟩ := showsPages_after _ _ ⟨4097⟩ small running
  exact ⟨shows, by decide +kernel, by decide +kernel, by decide +kernel⟩

end Machine

end Exokernel
