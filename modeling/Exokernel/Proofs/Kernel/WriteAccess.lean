import Exokernel.Proofs.Accesses
import Exokernel.Proofs.Kernel.Messages
import Exokernel.Proofs.Kernel.Runs
import Exokernel.Proofs.Memory.Provenance
import Exokernel.Proofs.Traps

/-! A page that nobody may write to never becomes writable, and never changes. -/

namespace Exokernel

namespace PlannedMapping

open Memory (Derives)

variable {memory : Memory} {planned : PlannedMapping} {source : SpaceHandle} {va : Address}
  {held : PageFlags}

/-- An entry that a plan puts in place is shared from the page that offers it. -/
theorem derived_of_offers (offers : memory.Offers source va planned held) {handle : SpaceHandle}
    {other : Address} {entry : PageEntry}
    (made : entry = { frame := planned.frame, flags := planned.flags ||| .present }) :
    memory.Derived handle other entry := by
  -- The permission has the present bit already.
  rw [PageFlags.or_present offers.allowed] at made
  rw [made]
  exact .shared offers.mapped offers.covered offers.allowed

/-- Carrying out a plan shares the page that offers it, or nothing. -/
theorem derives_apply (offers : memory.Offers source va planned held) :
    Derives memory (planned.apply memory).2 := by
  refine .ofEntry (memory.sameOutside_map planned.space planned.va planned.frame planned.flags)
    (memory.clears_map planned.space planned.va planned.frame planned.flags)
    fun other entry found => ?_
  -- The new entry is derived from the offer, and all others are kept.
  cases applied : planned.apply memory with
  | mk result next =>
    rw [applied] at found
    cases result with
    | ok =>
      rw [Memory.entryAt?_map (apply_ok applied)] at found
      split at found
      · exact derived_of_offers offers (Option.some.inj found).symm
      · exact .kept found
    | error error =>
      obtain ⟨cause, refused⟩ := apply_error applied
      rw [Memory.entryAt?, Memory.table?_map_error refused, ← Memory.entryAt?] at found
      exact .kept found

/-- Replacing a mapping fills no frame with zeros that was in use. -/
theorem clears_replace {size : Nat} {inHand : Multiset FrameNumber}
    (sound : memory.Sound size inHand) (planned : PlannedMapping) :
    FramePool.Clears memory.pool (planned.replace memory).2.pool := by
  cases named : memory.table? planned.space with
  | none =>
    simp only [replace, Memory.unmap, named]
    exact fun _ => .inl rfl
  | some table =>
    rw [replace_eq named]
    cases mapped : memory.entryAt? planned.space planned.va with
    | none =>
      -- Nothing is removed, so only what was free before can be allocated.
      have tried := (memory.unmap planned.space planned.va).2.clears_map planned.space planned.va
        planned.frame planned.flags
      rw [Memory.pool_unmap_of_none mapped] at tried
      exact tried
    | some entry =>
      -- The page table of the removed mapping is there, so nothing is allocated at all.
      have present := sound.tableIndex_isSome named mapped
      obtain ⟨cleared, same, tables⟩ := Memory.table?_unmap named planned.va
      rw [← tables] at present
      intro other
      left
      rw [apply, Memory.page_map_of_table same present, Memory.page_unmap]

/-- Replacing a mapping shares the page that offers the new one, or nothing. -/
theorem derives_replace {size : Nat} {inHand : Multiset FrameNumber}
    (sound : memory.Sound size inHand) (offers : memory.Offers source va planned held)
    (aligned : isAligned planned.va = true) (below : planned.va < userTop)
    (exists_ : (memory.table? planned.space).isSome = true) :
    Derives memory (planned.replace memory).2 := by
  obtain ⟨table, named⟩ := Option.isSome_iff_exists.mp exists_
  refine .ofEntry (planned.sameOutside_replace memory) (clears_replace sound planned)
    fun other entry found => ?_
  -- The new entry is derived from the offer, and all others are kept.
  cases placed : planned.replace memory with
  | mk result next =>
    rw [placed] at found
    cases result with
    | ok =>
      rw [replace_ok named placed] at found
      split at found
      · exact derived_of_offers offers (Option.some.inj found).symm
      · exact .kept found
    | error error =>
      rw [Memory.entryAt?, (replace_error sound aligned below placed).tables,
        ← Memory.entryAt?] at found
      exact .kept found

end PlannedMapping

namespace Kernel

open Memory (Derives)

variable {kernel next : Kernel} {owner : Slot} {frame : TrapFrame} {address : Address}

/-- An environment that goes takes mappings away and changes no bytes. -/
theorem contents_freeEnv (kernel : Kernel) (slot : Slot) :
    (∀ handle va entry, (kernel.freeEnv slot).memory.entryAt? handle va = some entry →
      kernel.memory.entryAt? handle va = some entry) ∧
    ∀ frame, (kernel.freeEnv slot).memory.pool.page frame = kernel.memory.pool.page frame := by
  cases held : (kernel.envAt slot).space with
  | none =>
    simp only [freeEnv, held]
    split <;> exact ⟨fun _ _ _ => id, fun _ => rfl⟩
  | some space =>
    refine ⟨fun handle va entry found => ?_, fun frame => ?_⟩
    · rw [Memory.entryAt?, table?_freeEnv held] at found
      split at found
      · simp at found
      · exact found
    · -- Taking the space out of use first makes no difference to the bytes.
      rw [memory_freeEnv held, Memory.page_destroySpace]
      split <;> rfl

/-- A new environment starts with an empty space, and without one nothing changes. -/
theorem derives_allocEnv (kernel : Kernel) (parent : EnvId) :
    Derives kernel.memory (kernel.allocEnv parent).2.memory := by
  have supplies := kernel.memory.supplies_createSpace
  cases allocated : kernel.allocEnv parent with
  | mk result next =>
    cases result with
    | error error =>
      rcases allocEnv_error allocated with rfl | ⟨cause, memory, failed, rfl⟩
      · exact .refl _
      · rw [failed] at supplies
        refine ⟨fun handle va entry found => ?_, fun frame used _ =>
          supplies.clears.page_of_used used⟩
        rw [Memory.entryAt?, Memory.table?_congr (Memory.createSpace_error_spec failed).1] at found
        exact .kept found
    | ok made =>
      obtain ⟨slot, space⟩ := made
      obtain ⟨rest, memory, -, created, rfl⟩ := allocEnv_ok allocated
      obtain ⟨-, -, others, -⟩ := Memory.createSpace_ok_spec created
      rw [created] at supplies
      refine ⟨fun handle va entry found => ?_, fun frame used _ =>
        supplies.clears.page_of_used used⟩
      dsimp only at found
      -- The new space holds nothing, and the others what they held.
      by_cases new : handle = space
      · rw [new, Memory.entryAt?_createSpace created] at found
        simp at found
      · rw [Memory.entryAt?, others handle new] at found
        exact .kept found

/-- The record of a fault goes to memory that the environment can write to itself. -/
theorem derives_fault {delivery : FaultDelivery}
    (planned : kernel.planFault owner frame = some delivery) (address : Address) :
    Derives kernel.memory (kernel.memory.copyOut delivery.space delivery.recordAt
      (FaultRecord.ofFrame frame address).encode).2 := by
  obtain ⟨-, -, placed, checked⟩ := planFault_some planned
  rw [placed] at checked ⊢
  refine .copyOut fun offset inside entry found => ?_
  rw [FaultRecord.length_encode] at inside
  -- The record's range was checked for writing before it was used.
  have permitted := Memory.userCheck_record_iff.mp checked offset inside
  exact (PageFlags.contains_or_iff.mp (permitted.writable found)).2

/-- The page of a message is shared by its sender. -/
theorem Consistent.derives_placePage (consistent : kernel.Consistent)
    (owns : kernel.current = some owner) {request : SendRequest} {delivery : Delivery}
    (resolved : kernel.resolveSend request = .ok delivery) :
    Derives kernel.memory (delivery.placePage kernel.memory).2 := by
  obtain ⟨-, -, -, -, paged⟩ := resolveSend_ok owns resolved
  unfold Delivery.placePage
  cases carried : delivery.page with
  | none => exact .refl _
  | some planned =>
    rw [carried] at paged
    obtain ⟨sourceSpace, held, landing, -, taking, -, offers⟩ := resolvePage_some paged
    -- Where a message lands is user memory, and the receiver has a space to land in.
    obtain ⟨aligned, below⟩ := consistent.landing delivery.receiver planned.va landing
    obtain ⟨space, same, exists_⟩ := consistent.owns delivery.receiver
      (consistent.isLive_of_space taking)
    rw [taking, Option.some.injEq] at same
    exact PlannedMapping.derives_replace consistent.memory offers aligned below (same ▸ exists_)

/-- Whatever a trap does, mappings come from somewhere and only writable frames are written to. -/
theorem Consistent.derives_effect (consistent : kernel.Consistent)
    (owns : kernel.current = some owner) {acted : Kernel} {answer : Option Word}
    (effect : Effect kernel owner frame address acted answer) :
    Derives kernel.memory acted.memory := by
  -- One case for each effect that concerns memory.
  cases effect with
  | fault planned recorded =>
    have written := derives_fault planned address
    rw [recorded] at written
    exact written
  -- Freeing removes entries, and writes to no frame.
  | exit =>
    obtain ⟨entries, pages⟩ := contents_freeEnv kernel owner
    exact (Derives.refl kernel.memory).followed entries pages
  | destroy =>
    obtain ⟨entries, pages⟩ := contents_freeEnv kernel _
    exact (Derives.refl kernel.memory).followed entries pages
  | allocPage value request resolved =>
    obtain ⟨-, -, -, -, -, allowed⟩ := resolveAlloc_ok resolved
    exact .mapFresh _ _ _ allowed
  | mapPage value request resolved =>
    obtain ⟨-, -, sourceSpace, held, -, -, -, -, -, -, offers⟩ := resolveMap_ok resolved
    exact PlannedMapping.derives_apply offers
  | unmapPage => exact .unmap _ _ _
  | deliver value request resolved placed =>
    have landed := consistent.derives_placePage owns resolved
    rw [placed] at landed
    exact landed
  | undelivered request resolved unplaced =>
    have landed := consistent.derives_placePage owns resolved
    rw [unplaced] at landed
    exact landed
  | fork value request allocated =>
    have made := kernel.derives_allocEnv (kernel.envAt owner).id
    rw [allocated] at made
    exact made
  | unforked request refused =>
    have tried := kernel.derives_allocEnv (kernel.envAt owner).id
    rw [refused] at tried
    exact tried
  | _ => exact .refl _

/-- A trap has its effect on memory, if it has one, and changes at most which space is in use. -/
theorem Settled.memory_trap (settled : kernel.Settled) (frame : TrapFrame) (address : Address) :
    (∃ active, (kernel.trap frame address).2.memory = kernel.memory.activate active) ∨
    ∃ owner acted answer active, frame.fromUser = true ∧ kernel.current = some owner ∧
      Effect (kernel.saved owner frame) owner frame address acted answer ∧
      (kernel.trap frame address).2.memory = acted.memory.activate active := by
  cases settled.trapCourse frame address with
  | outside unowned undisturbed => exact .inl undisturbed.memory
  | @owned owner acted answer user owns effect ends =>
    obtain ⟨active, same⟩ := ends.undisturbed.memory
    -- The answer goes to a saved register, which is no memory.
    have answered : (acted.answered answer).memory = acted.memory := by
      rcases acted.answered_cases answer with kept | ⟨_, _, -, kept⟩ <;> rw [kept]
      rfl
    exact .inr ⟨owner, acted, answer, active, user, owns, effect, by rw [same, answered]⟩

/-- Every trap derives the mappings that it leaves from those that it found. -/
theorem Settled.derives_trap (settled : kernel.Settled) (frame : TrapFrame) (address : Address) :
    Derives kernel.memory (kernel.trap frame address).2.memory := by
  -- Switching to another space changes neither mappings nor bytes.
  have switched {memory : Memory} (derives : Derives kernel.memory memory)
      (active : Option SpaceHandle) : Derives kernel.memory (memory.activate active) :=
    ⟨derives.entries, derives.pages⟩
  rcases settled.memory_trap frame address with
    ⟨active, same⟩ | ⟨owner, acted, answer, active, user, current, effect, same⟩
  · rw [same]
    exact switched (.refl _) active
  · obtain ⟨consistent, owns, -⟩ := settled.saved user current
    have derives : Derives kernel.memory acted.memory := consistent.derives_effect owns effect
    rw [same]
    exact switched derives active

/-- A program is loaded into fresh frames only. -/
theorem derives_createEnv (kernel : Kernel) (image : ProgramImage) :
    Derives kernel.memory (kernel.createEnv image).2.memory := by
  have begun := kernel.derives_allocEnv .self
  unfold createEnv
  cases allocated : kernel.allocEnv .self with
  | mk result made =>
    rw [allocated] at begun
    cases result with
    | error error => exact begun
    | ok created =>
      obtain ⟨slot, space⟩ := created
      have loads := Memory.Loads.loadImage made.memory space image
      obtain ⟨rest, memory, -, emptied, rfl⟩ := allocEnv_ok allocated
      have supplies := kernel.memory.supplies_createSpace
      rw [emptied] at supplies
      have empty := Memory.entryAt?_createSpace emptied
      dsimp only at begun loads ⊢
      -- All that is in the new space was loaded, and everything else was there before.
      have loaded : Derives kernel.memory (memory.loadImage space image).2 := by
        refine ⟨fun handle va entry found => ?_, fun frame used unwritable => ?_⟩
        · by_cases new : handle = space
          · subst new
            rcases loads.entries va entry found with old | ⟨free, allowed⟩
            · simp [empty] at old
            · exact .fresh (supplies.free_subset _ free) allowed
          · rw [Memory.entryAt?, loads.outside.others handle new] at found
            exact begun.entries handle va entry found
        · -- Frames that were in use are not written to by loading.
          have stillUsed : frame ∉ memory.pool.free := fun free =>
            used (supplies.free_subset frame free)
          rw [loads.pages frame stillUsed fun va entry found => by simp [empty] at found]
          exact begun.pages frame used unwritable
      split
      · rename_i error last failed
        rw [failed] at loaded
        -- An environment that cannot be loaded takes its mappings with it.
        obtain ⟨entries, pages⟩ := contents_freeEnv
          { kernel with
            memory := last
            envs := { kernel.envs with free := rest }.put slot
              (.fresh ((kernel.envAt slot).id.next slot) .self space) } slot
        exact loaded.followed entries pages
      · rename_i last done
        rw [done] at loaded
        exact loaded

end Kernel

/-- Something that the loader, an environment or the processor does. -/
inductive Activity where
  /-- An environment is created from an image, or cannot be. -/
  | create (image : ProgramImage)
  /-- The processor traps. -/
  | trap (frame : TrapFrame) (address : Address)
  /-- Whoever runs reads memory. -/
  | load (cpu : CpuState) (va : Address) (length : Nat)
  /-- Whoever runs writes memory. -/
  | store (cpu : CpuState) (va : Address) (data : List UInt8)
  /-- Scheduling starts. -/
  | reschedule
  /-- The next frame allocation is made to fail. -/
  | forceFailure
  /-- Bytes are typed at the console. -/
  | typed (bytes : List UInt8)

/-- A user program makes a system call. -/
def Activity.call (call : Syscall) (words : Arguments) : Activity :=
  .trap (Machine.called .initial call words) 0

namespace Kernel

open Memory (Derives)

variable {kernel : Kernel} {frame : FrameNumber}

/-- The kernel after an activity. -/
def act (kernel : Kernel) : Activity → Kernel
  -- Results are dropped: what has failed is an activity like any other.
  | .create image => (kernel.createEnv image).2
  | .trap frame address => (kernel.trap frame address).2
  | .load cpu va length => (Machine.load { kernel, cpu } va length).2.kernel
  | .store cpu va data => (Machine.store { kernel, cpu } va data).2.kernel
  | .reschedule => kernel.reschedule.2
  | .forceFailure => kernel.forceFailure
  | .typed bytes => { kernel with console := kernel.console.pushInput bytes }

/-- Activities leave a settled kernel settled. -/
theorem Settled.act (settled : kernel.Settled) (activity : Activity) :
    (kernel.act activity).Settled := by
  -- An access leaves the kernel alone, enters it by a trap, or writes bytes.
  cases activity with
  | create image => exact settled.createEnv image
  | trap frame address => exact settled.trap frame address
  | load cpu va length =>
    rcases Machine.kernel_load { kernel, cpu } va length with same | ⟨frame, address, entered⟩
    · rw [Kernel.act, same]
      exact settled
    · rw [Kernel.act, entered]
      exact settled.trap frame address
  | store cpu va data =>
    rcases Machine.kernel_store { kernel, cpu } va data with
      same | ⟨frame, address, entered⟩ | ⟨space, -, written, -⟩
    · rw [Kernel.act, same]
      exact settled
    · rw [Kernel.act, entered]
      exact settled.trap frame address
    · rw [Kernel.act, written]
      exact ⟨settled.toConsistent.copyOut space va data, settled.ready⟩
  | reschedule => exact settled.toConsistent.ends (ends_reschedule kernel)
  | forceFailure => exact settled.forceFailure
  | typed bytes => exact ⟨settled.toConsistent.congr rfl rfl rfl rfl rfl, settled.ready⟩

/-- No activity makes up a mapping, or writes to a frame that nobody may write to. -/
theorem Settled.derives_act (settled : kernel.Settled) (activity : Activity) :
    Derives kernel.memory (kernel.act activity).memory := by
  -- An access leaves the kernel alone, enters it by a trap, or writes bytes where it may.
  cases activity with
  | create image => exact kernel.derives_createEnv image
  | trap frame address => exact settled.derives_trap frame address
  | load cpu va length =>
    rcases Machine.kernel_load { kernel, cpu } va length with same | ⟨frame, address, entered⟩
    · rw [Kernel.act, same]
      exact .refl kernel.memory
    · rw [Kernel.act, entered]
      exact settled.derives_trap frame address
  | store cpu va data =>
    rcases Machine.kernel_store { kernel, cpu } va data with
      same | ⟨frame, address, entered⟩ | ⟨space, -, written, writable⟩
    · rw [Kernel.act, same]
      exact .refl kernel.memory
    · rw [Kernel.act, entered]
      exact settled.derives_trap frame address
    · rw [Kernel.act, written]
      exact .copyOut writable
  | reschedule =>
    obtain ⟨active, same⟩ := kernel.ends_reschedule.undisturbed.memory
    rw [Kernel.act, same]
    exact ⟨fun _ _ _ found => .kept found, fun _ _ _ => rfl⟩
  | forceFailure | typed bytes => exact ⟨fun _ _ _ found => .kept found, fun _ _ _ => rfl⟩

/-- A frame that nobody may write to stays as it is until it is given back. -/
theorem Settled.readOnly_foldl (settled : kernel.Settled) (used : frame ∉ kernel.memory.pool.free)
    (unwritable : ¬kernel.memory.MapsWritable frame) (future : List Activity)
    (inUse : ∀ done, done <+: future → done ≠ [] →
      frame ∉ (done.foldl Kernel.act kernel).memory.pool.free) :
    ¬(future.foldl Kernel.act kernel).memory.MapsWritable frame ∧
      (future.foldl Kernel.act kernel).memory.pool.page frame = kernel.memory.pool.page frame := by
  -- Induct on what is still to come: one activity changes neither, and then the others do not.
  induction future generalizing kernel with
  | nil => exact ⟨unwritable, rfl⟩
  | cons activity rest ih =>
    obtain ⟨still, same⟩ := (settled.derives_act activity).readOnly used unwritable
    have stillUsed : frame ∉ (kernel.act activity).memory.pool.free :=
      inUse [activity] (List.cons_prefix_cons.mpr ⟨rfl, List.nil_prefix⟩) (by simp)
    obtain ⟨last, bytes⟩ := ih (settled.act activity) stillUsed still fun done before some =>
      inUse (activity :: done) (List.cons_prefix_cons.mpr ⟨rfl, before⟩) (by simp)
    exact ⟨last, bytes.trans same⟩

/-- Activities leave a settled kernel settled, however many there are. -/
theorem Settled.foldl_act (settled : kernel.Settled) (activities : List Activity) :
    (activities.foldl Kernel.act kernel).Settled := by
  -- Induct on the activities, each of which keeps the kernel settled.
  induction activities generalizing kernel with
  | nil => exact settled
  | cons activity rest ih => exact ih (settled.act activity)

/-- Permission to write to a page comes from nowhere, whatever happens. -/
structure WriteProtected (kernel : Kernel) (future : List Activity) : Prop where
  /-- A frame in use that nobody may write to stays so, with its bytes, until it is free again. -/
  readOnly : ∀ frame, 0 < kernel.memory.pool.refs frame → ¬kernel.memory.MapsWritable frame →
    (∀ done, done <+: future → done ≠ [] → frame ∉ (done.foldl act kernel).memory.pool.free) →
    ¬(future.foldl act kernel).memory.MapsWritable frame ∧
      (future.foldl act kernel).memory.pool.page frame = kernel.memory.pool.page frame
  /-- Each mapping was there before, or is of a fresh frame, or is shared from an old mapping. -/
  derived : ∀ done activity, done ++ [activity] <+: future → ∀ handle va entry,
    ((done ++ [activity]).foldl act kernel).memory.entryAt? handle va = some entry →
      (done.foldl act kernel).memory.Derived handle va entry
  /-- A mapping for writing is of a frame that was free or mapped for writing just before. -/
  writable : ∀ done activity, done ++ [activity] <+: future → ∀ frame,
    ((done ++ [activity]).foldl act kernel).memory.MapsWritable frame →
      frame ∈ (done.foldl act kernel).memory.pool.free ∨
        (done.foldl act kernel).memory.MapsWritable frame

/-- After every run of the kernel, permission to write to a page comes from nowhere. -/
theorem writeProtected_after (config : Config) (past : List KernelEvent)
    (future : List Activity) : (after config past).WriteProtected future := by
  have settled := settled_after config past
  -- Each activity works on a settled kernel.
  have derived (done : List Activity) (activity : Activity) :
      Derives (done.foldl act (after config past)).memory
        ((done ++ [activity]).foldl act (after config past)).memory := by
    rw [List.foldl_append]
    exact (settled.foldl_act done).derives_act activity
  refine
    { readOnly := fun frame referenced unwritable inUse => ?_
      derived := fun done activity _ => (derived done activity).entries
      writable := fun done activity _ frame writes => ?_ }
  · have used := settled.memory.not_mem_free referenced
    exact settled.readOnly_foldl used unwritable future inUse
  · obtain ⟨handle, va, flags, found, permits⟩ := writes
    exact ((derived done activity).entries handle va _ found).writable permits

/--
A program makes a child, gives it its text, which it may not do for writing, and lets it run. Then
it stores to its text itself, which is the end of it, and the next program takes its frames.
-/
def textShared : List Activity :=
  -- The first mapping asks for too much, and is refused.
  [.reschedule, .call .fork {}, .call .mapPage ⟨0, textStart, 4098, textStart, 7⟩,
    .call .mapPage ⟨0, textStart, 4098, textStart, 5⟩,
    .call .setStatus { first := 4098, second := Status.runnable.toWord },
    .store (.running ⟨4097⟩ .initial) textStart [1],
    .create ⟨textStart, [⟨textStart, [144], 1, true⟩]⟩]

/-- The child has the text of a program that is gone, and as it was loaded. -/
theorem writeProtected_textShared :
    let past : List KernelEvent :=
      [.create ⟨0, []⟩, .create ⟨textStart, [⟨textStart, [195], 1, false⟩]⟩]
    let kernel := after { frames := 16 } past
    0 < kernel.memory.pool.refs 4 ∧ ¬kernel.memory.MapsWritable 4 ∧
      (∀ done, done <+: textShared → done ≠ [] →
        4 ∉ (done.foldl act kernel).memory.pool.free) ∧
      ((textShared.foldl act kernel).memory.entryAt? ⟨2⟩ textStart).map PageEntry.frame = some 4 ∧
      ¬(textShared.foldl act kernel).memory.MapsWritable 4 ∧
      (textShared.foldl act kernel).memory.pool.page 4 = kernel.memory.pool.page 4 := by
  intro past kernel
  have referenced : 0 < kernel.memory.pool.refs 4 := by decide +kernel
  have unwritable : ¬kernel.memory.MapsWritable 4 :=
    Memory.not_mapsWritable_of_all (by decide +kernel)
  have mapped : ((textShared.foldl act kernel).memory.entryAt? ⟨2⟩ textStart).map
      PageEntry.frame = some 4 := by
    decide +kernel
  -- The child keeps the frame in use, also when the parent gives back all that it has.
  have checked : ∀ done ∈ textShared.inits, 4 ∉ (done.foldl act kernel).memory.pool.free := by
    decide +kernel
  have inUse (done : List Activity) (before : done <+: textShared) (_ : done ≠ []) :
      4 ∉ (done.foldl act kernel).memory.pool.free :=
    checked done ((List.mem_inits done textShared).mpr before)
  have protect : kernel.WriteProtected textShared :=
    writeProtected_after { frames := 16 } past textShared
  exact ⟨referenced, unwritable, inUse, mapped, protect.readOnly 4 referenced unwritable inUse⟩

end Kernel

end Exokernel
