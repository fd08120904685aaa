import Exokernel.Proofs.Kernel.Runs
import Exokernel.Proofs.Memory.Duplication
import Exokernel.Proofs.Traps

/-! An image that cannot be loaded leaves everything as it was but the record of a free slot. -/

namespace Exokernel

namespace Memory

variable {memory made loaded next : Memory} {space : SpaceHandle} {size : Nat}

/-- The same pages are mapped to the same frames, and nothing has been lost of what is in use. -/
structure Restored (memory next : Memory) : Prop where
  /-- Every space maps the same pages, with the same page tables. -/
  tables : ∀ handle, next.table? handle = memory.table? handle
  /-- The same frames are free. -/
  mem_free_iff : ∀ frame, frame ∈ next.pool.free ↔ frame ∈ memory.pool.free
  /-- Every frame is referenced as often as it was. -/
  refs_eq : ∀ frame, next.pool.refs frame = memory.pool.refs frame
  /-- Frames in use keep their bytes. -/
  page_eq : ∀ frame, 0 < memory.pool.refs frame → next.pool.page frame = memory.pool.page frame
  /-- No failure is forced that was not forced before. -/
  spent : next.pool.failNext = true → memory.pool.failNext = true

/-- Memory is restored while nothing happens to it. -/
theorem Restored.refl (memory : Memory) : memory.Restored memory :=
  ⟨fun _ => rfl, fun _ => .rfl, fun _ => rfl, fun _ _ => rfl, id⟩

/-- Memory that is intact is restored. -/
theorem Intact.restored (intact : memory.Intact next) : memory.Restored next where
  tables := intact.tables
  mem_free_iff frame := by rw [intact.pool.free_eq]
  refs_eq := intact.pool.refs_eq
  page_eq := intact.pool.page_eq
  spent := intact.pool.spent

/-- A new space that goes again takes with it whatever was placed in it. -/
theorem Loads.restored (sound : memory.Sound size 0)
    (created : memory.createSpace = (.ok space, made)) (loads : Loads space made loaded) :
    memory.Restored (loaded.destroySpace space).2 := by
  obtain ⟨absent, -, others, -⟩ := createSpace_ok_spec created
  have after : (loaded.destroySpace space).2.Sound size 0 :=
    (loads.sound (sound.createSpace_ok created)).destroySpace space
  have tables (handle : SpaceHandle) :
      (loaded.destroySpace space).2.table? handle = memory.table? handle := by
    rw [destroySpace_spec]
    split
    · rename_i gone
      rw [gone, absent]
    · rename_i other
      rw [loads.outside.others handle other, others handle other]
  -- With the same page tables, the same frames are referenced, and the others are free.
  have refs := sound.refs_eq_of_references after fun handle => by
    rw [referencesOf, tables, referencesOf]
  refine ⟨tables, sound.mem_free_iff_of_refs after refs, refs, fun frame used => ?_, ?_⟩
  · have supplies := memory.supplies_createSpace
    rw [created] at supplies
    have inUse := sound.not_mem_free used
    have stillInUse : frame ∉ made.pool.free := fun free => inUse (supplies.free_subset frame free)
    rw [page_destroySpace, ← supplies.clears.page_of_used inUse]
    exact loads.pages frame stillInUse fun va entry found => by
      simp [entryAt?_createSpace created] at found
  · -- The first allocation of all has used the forced failure up.
    have spent := memory.failNext_createSpace
    rw [created] at spent
    intro forced
    rw [failNext_destroySpace] at forced
    rw [loads.spent forced] at spent
    simp at spent

end Memory

/-- A free slot after a try: its id has moved on, and the rest is as new environments have it. -/
def Env.tried (env : Env) (slot : Slot) : Env :=
  { env with id := env.id.next slot, parent := .self, runs := 0, frame := .initial }

/-- What stays of a new environment in a slot that was free. -/
theorem Env.vacated_fresh {env : Env} (status : env.status = .free)
    (vacant : env.space = none ∧ env.faultEntry = none ∧ env.mailbox = {}) (slot : Slot)
    (space : SpaceHandle) :
    (Env.fresh (env.id.next slot) .self space).vacated = env.tried slot := by
  -- A slot that was free has nothing else to be remembered.
  obtain ⟨empty, silent, mailbox⟩ := vacant
  simp [vacated, fresh, tried, status, empty, silent, mailbox]

namespace Kernel

variable {kernel next : Kernel} {image : ProgramImage} {cause : LoadError}

/-- Everything is as it was, but for the record of the first free slot and a forced failure. -/
structure LeavesNoTrace (kernel next : Kernel) : Prop where
  /-- The same environments exist, and each is as it was. -/
  env?_eq : ∀ id, next.env? id = kernel.env? id
  /-- Records are the same, but that of the first free slot may show that it was tried. -/
  slots : ∀ slot, next.envAt slot = kernel.envAt slot ∨
    kernel.envs.free.head? = some slot ∧ next.envAt slot = (kernel.envAt slot).tried slot
  /-- The same slots are free, in the same order. -/
  free_eq : next.envs.free = kernel.envs.free
  /-- The same environment owns the processor. -/
  current_eq : next.current = kernel.current
  /-- The search for the next one starts where it did. -/
  lastRun_eq : next.lastRun = kernel.lastRun
  /-- The processor uses the same space. -/
  active_eq : next.memory.active = kernel.memory.active
  /-- Mappings, references and the bytes in use are the same. -/
  memory : kernel.memory.Restored next.memory
  /-- What the kernel was told at boot stays. -/
  config_eq : next.config = kernel.config
  /-- The console stays. -/
  console_eq : next.console = kernel.console
  /-- The monitor's log stays. -/
  monitor_eq : next.monitor = kernel.monitor
  /-- No time passes. -/
  clock_eq : next.clock = kernel.clock

/-- A creation that fails had nothing to load into, or has freed the environment again. -/
theorem createEnv_error (failed : kernel.createEnv image = (.error cause, next)) :
    (∃ error, kernel.allocEnv .self = (.error error, next)) ∨
      ∃ slot space made memory, kernel.allocEnv .self = (.ok (slot, space), made) ∧
        made.memory.loadImage space image = (.error cause, memory) ∧
        next = { made with memory }.freeEnv slot := by
  simp only [createEnv] at failed
  -- It is either the allocation that fails, or the image that cannot be loaded.
  split at failed
  · rename_i error after refused
    simp only [Prod.mk.injEq] at failed
    exact .inl ⟨error, failed.2 ▸ refused⟩
  · rename_i slot space made allocated
    split at failed
    · rename_i error memory refused
      simp only [Prod.mk.injEq, Except.error.injEq] at failed
      obtain ⟨rfl, rfl⟩ := failed
      exact .inr ⟨slot, space, made, memory, allocated, refused, rfl⟩
    · simp at failed

/-- A slot that was free and was tried holds nobody. -/
theorem env?_of_tried {slot : Slot} (others : ∀ other, other ≠ slot →
      next.envAt other = kernel.envAt other)
    (dead : (kernel.envAt slot).isLive = false) (still : (next.envAt slot).isLive = false)
    (id : EnvId) : next.env? id = kernel.env? id := by
  -- An id that points to the slot has named nobody and still names nobody.
  by_cases here : id.slot = slot
  · simp only [env?, here, dead, still, Bool.false_and, Bool.false_eq_true, if_false]
  · simp only [env?, others id.slot here]

/-- An environment that is freed while its image is being loaded leaves no trace. -/
theorem Consistent.leavesNoTrace_of_allocEnv (consistent : kernel.Consistent) {made : Kernel}
    {slot : Slot} {space : SpaceHandle} {memory : Memory}
    (allocated : kernel.allocEnv .self = (.ok (slot, space), made))
    (loads : Memory.Loads space made.memory memory) :
    kernel.LeavesNoTrace ({ made with memory }.freeEnv slot) := by
  have dead := consistent.not_isLive_of_allocEnv allocated
  have begun := consistent.allocEnv_ok allocated
  -- Loading has kept to the new space, so the kernel that frees it is consistent.
  have loaded := begun.setMemory (loads.sound begun.memory) loads.outside.isSome_eq
    loads.outside.active_eq
  have slots := envAt_allocEnv allocated
  have fresh := (slots slot).trans (if_pos rfl)
  have created := createSpace_of_allocEnv allocated
  have unowned := consistent.unowned_of_allocEnv allocated
  obtain ⟨rest, room, first, -, same⟩ := Kernel.allocEnv_ok allocated
  have status := (consistent.envs.mem_free slot).mp (first ▸ List.mem_cons_self)
  have held : (({ made with memory } : Kernel).envAt slot).space = some space :=
    congrArg Env.space fresh
  -- Once it is freed, the slot has the record of a new environment, and its space is gone.
  have here : (({ made with memory } : Kernel).freeEnv slot).envAt slot =
      (kernel.envAt slot).tried slot := by
    rw [envAt_freeEnv, if_pos rfl]
    exact (congrArg Env.vacated fresh).trans
      (Env.vacated_fresh status (consistent.envs.vacant slot status) slot space)
  have others (other : Slot) (different : other ≠ slot) :
      (({ made with memory } : Kernel).freeEnv slot).envAt other = kernel.envAt other := by
    rw [envAt_freeEnv, if_neg different]
    exact (slots other).trans (if_neg different)
  have gone : (({ made with memory } : Kernel).freeEnv slot).memory =
      (memory.destroySpace space).2 := by
    rw [memory_freeEnv held, if_neg unowned]
  refine
    { env?_eq := env?_of_tried others dead (by rw [here]; exact dead)
      slots := fun other => ?_
      free_eq := ?_
      current_eq := by rw [same]; rfl
      lastRun_eq := by rw [same]; rfl
      active_eq := ?_
      memory := ?_
      config_eq := by rw [same]; rfl
      console_eq := by rw [same]; rfl
      monitor_eq := by rw [same]; rfl
      clock_eq := by rw [same]; rfl }
  · -- Only the slot that was tried differs, and it is the first free one again.
    by_cases tried : other = slot
    · exact .inr ⟨by rw [first, tried]; rfl, by rw [tried, here]⟩
    · exact .inl (others other tried)
  · rw [first, same]
    rfl
  · rw [loaded.active_freeEnv held, if_neg unowned]
    exact loads.outside.active_eq.trans (Memory.createSpace_ok_spec created).2.2.2
  · -- What the image was loaded into is given back with the space.
    rw [gone]
    exact loads.restored consistent.memory created

/-- Whatever the reason for which an image is refused, it leaves no trace. -/
theorem Consistent.leavesNoTrace (consistent : kernel.Consistent)
    (failed : kernel.createEnv image = (.error cause, next)) : kernel.LeavesNoTrace next := by
  rcases createEnv_error failed with ⟨error, refused⟩ |
    ⟨slot, space, made, memory, allocated, refused, rfl⟩
  · -- Without a slot nothing is tried, and without a frame for the directory no slot is taken.
    rcases Kernel.allocEnv_error refused with rfl | ⟨reason, room, short, rfl⟩
    · exact ⟨fun _ => rfl, fun _ => .inl rfl, rfl, rfl, rfl, rfl, .refl _, rfl, rfl, rfl, rfl⟩
    · have intact := Memory.Intact.createSpace short
      exact ⟨fun _ => rfl, fun _ => .inl rfl, rfl, rfl, rfl, intact.active_eq, intact.restored,
        rfl, rfl, rfl, rfl⟩
  · have loads := Memory.Loads.loadImage made.memory space image
    rw [refused] at loads
    exact consistent.leavesNoTrace_of_allocEnv allocated loads

/-- In every state of the kernel, an image that cannot be loaded leaves no trace. -/
theorem leavesNoTrace_after (config : Config) (events : List KernelEvent) (image : ProgramImage)
    (cause : LoadError) (failed : ((after config events).createEnv image).1 = .error cause) :
    (after config events).LeavesNoTrace ((after config events).createEnv image).2 :=
  (settled_after config events).toConsistent.leavesNoTrace (Prod.ext failed rfl)

/-- Memory runs out in the middle of a segment, while another environment owns the processor. -/
theorem leavesNoTrace_exhausted :
    let kernel := after { frames := 10 } [.create ⟨0, []⟩, .create ⟨0, []⟩, .reschedule]
    let image : ProgramImage := { entry := 0x800000, segments := [⟨0x800000, [1], 0x5000, true⟩] }
    (kernel.createEnv image).1 = .error (.env .outOfMemory) ∧
      kernel.LeavesNoTrace (kernel.createEnv image).2 := by
  -- The segment has five pages, and there are not as many frames.
  have failed : ((after { frames := 10 } [.create ⟨0, []⟩, .create ⟨0, []⟩,
      .reschedule]).createEnv { entry := 0x800000, segments :=
        [⟨0x800000, [1], 0x5000, true⟩] }).1 = .error (.env .outOfMemory) := by decide +kernel
  exact ⟨failed, leavesNoTrace_after { frames := 10 } [.create ⟨0, []⟩, .create ⟨0, []⟩,
    .reschedule] _ _ failed⟩

/--
More than the id of the slot may change: where an environment had run before, its count of runs is
gone after the try.
-/
theorem runs_forgotten :
    let kernel := after { frames := 12 } [.create ⟨0, []⟩, .create ⟨0, []⟩, .create ⟨0, []⟩,
      .reschedule, .trap (Machine.called .initial .destroyEnv {}) 0]
    let image : ProgramImage := { entry := 0, segments := [⟨0xeec00000, [], 1, false⟩] }
    (kernel.createEnv image).1 = .error (.outOfRange 0xeec00000) ∧
      ∀ id, (kernel.createEnv image).2.envAt (slotAt 1) ≠
        { kernel.envAt (slotAt 1) with id := id } := by
  intro kernel image
  have failed : (kernel.createEnv image).1 = .error (.outOfRange 0xeec00000) := by decide +kernel
  have before : (kernel.envAt (slotAt 1)).runs = 1 := by decide +kernel
  have after : ((kernel.createEnv image).2.envAt (slotAt 1)).runs = 0 := by decide +kernel
  -- Another id would not bring the count back.
  refine ⟨failed, fun id same => ?_⟩
  rw [same] at after
  dsimp only at after
  rw [before] at after
  simp at after

end Kernel

end Exokernel
