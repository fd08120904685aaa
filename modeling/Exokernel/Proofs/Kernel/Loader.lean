import Exokernel.Kernel.Loader
import Exokernel.Proofs.Abi.PageFlags
import Exokernel.Proofs.Kernel.Preservation
import Exokernel.Proofs.Memory.Bytes
import Exokernel.Proofs.Memory.Refusals

/-! Loading a program touches one address space, and a failure leaves nothing behind. -/

namespace Exokernel

namespace Memory

/--
A change of memory that keeps the accounts, touches one space only, and puts nothing but fresh
frames in it.
-/
structure Loads (handle : SpaceHandle) (memory next : Memory) : Prop where
  /-- References stay accounted for. -/
  sound : ∀ {size held}, memory.Sound size held → next.Sound size held
  /-- Other spaces stay as they were. -/
  outside : SameOutside handle memory next
  /-- No frame is given back. -/
  free_subset : ∀ frame, frame ∈ next.pool.free → frame ∈ memory.pool.free
  /-- New mappings are of frames that were free, with a permission that user code may ask for. -/
  entries : ∀ va entry, next.entryAt? handle va = some entry →
    memory.entryAt? handle va = some entry ∨
      entry.frame ∈ memory.pool.free ∧ entry.flags.isUserPermission = true
  /-- Frames that were neither free nor mapped in the space keep their bytes. -/
  pages : ∀ frame, frame ∉ memory.pool.free →
    (∀ va entry, memory.entryAt? handle va = some entry → entry.frame ≠ frame) →
    next.pool.page frame = memory.pool.page frame
  /-- No failure is forced that was not forced before. -/
  spent : next.pool.failNext = true → memory.pool.failNext = true

/-- The permissions of segments are ones that user code may ask for. -/
theorem isUserPermission_segment (segment : Segment) :
    segment.permission.isUserPermission = true := by
  -- There are two of them.
  rw [Segment.permission]
  split <;> decide

namespace Loads

variable {handle : SpaceHandle}

/-- Nothing is loaded by doing nothing. -/
theorem refl (handle : SpaceHandle) (memory : Memory) : Loads handle memory memory :=
  ⟨id, .refl handle memory, fun _ => id, fun _ _ => .inl, fun _ _ _ => rfl, id⟩

/-- What is loaded in two steps is loaded. -/
theorem trans {first second third : Memory} (before : Loads handle first second)
    (after : Loads handle second third) : Loads handle first third where
  sound sound := after.sound (before.sound sound)
  outside := before.outside.trans after.outside
  free_subset frame free := before.free_subset frame (after.free_subset frame free)
  entries va entry found := by
    -- A frame that is fresh later was fresh before.
    rcases after.entries va entry found with older | ⟨free, allowed⟩
    · exact before.entries va entry older
    · exact .inr ⟨before.free_subset _ free, allowed⟩
  pages frame used apart := by
    -- A frame that is neither free nor mapped in the space stays so.
    have stillUsed : frame ∉ second.pool.free := fun free => used (before.free_subset frame free)
    rw [after.pages frame stillUsed, before.pages frame used apart]
    intro va entry found
    rcases before.entries va entry found with older | ⟨free, -⟩
    · exact apart va entry older
    · rintro rfl
      exact used free
  spent := before.spent ∘ after.spent

/-- A fresh page for user code is part of a load. -/
theorem mapFresh {memory : Memory} {va : Address}
    (missing : memory.entryAt? handle va = none) {flags : PageFlags}
    (allowed : flags.isUserPermission = true) :
    Loads handle memory (memory.mapFresh handle va flags).2 where
  sound sound := sound.mapFresh handle va flags
  outside := memory.sameOutside_mapFresh handle va flags
  free_subset := (supplies_mapFresh missing flags).free_subset
  entries other entry found := by
    -- Only the page that is mapped gets another entry, and only if that succeeds.
    cases mapped : memory.mapFresh handle va flags with
    | mk result next =>
      rw [mapped] at found
      cases result with
      | error error =>
        rw [entryAt?, table?_mapFresh_error mapped, ← entryAt?] at found
        exact .inl found
      | ok =>
        obtain ⟨frame, free, -, entries⟩ := mapFresh_ok_spec mapped
        rw [entries] at found
        split at found
        · simp only [Option.some.injEq] at found
          rw [← found, PageFlags.or_present allowed]
          exact .inr ⟨free, allowed⟩
        · exact .inl found
  pages frame used _ := (clears_mapFresh memory handle va flags).page_of_used used
  spent forced := by
    rw [failNext_mapFresh] at forced
    simp at forced

/-- Bytes written to the space are part of a load. -/
theorem copyOut (memory : Memory) (handle : SpaceHandle) (va : Address) (bytes : List UInt8) :
    Loads handle memory (memory.copyOut handle va bytes).2 where
  sound sound := sound.copyOut handle va bytes
  outside := memory.sameOutside_copyOut handle handle va bytes
  free_subset frame free := by rwa [free_copyOut] at free
  entries other entry found := by
    -- Entries stay, as only frames are written to.
    rw [entryAt?, table?_congr (memory.spaces_copyOut handle va bytes).1, ← entryAt?] at found
    exact .inl found
  pages frame _ apart := page_copyOut fun offset _ entry found => apart _ entry found
  spent forced := by rwa [(counters_copyOut memory handle va bytes).1] at forced

/-- Giving a run of pages frames of their own. -/
theorem backPages (handle : SpaceHandle) {flags : PageFlags}
    (allowed : flags.isUserPermission = true) (count : Nat) (page : Address)
    (memory : Memory) : Loads handle memory (memory.backPages handle flags count page).2 := by
  -- Follow the run of pages: one that is there is kept, and one that is missing is mapped fresh.
  fun_induction Memory.backPages handle flags count page memory with
  | case1 page memory => exact refl handle memory
  | case2 count page memory entry found ih => exact ih
  | case3 count page memory missing error next refused =>
    have tried := mapFresh missing allowed
    rwa [refused] at tried
  | case4 count page memory missing next mapped ih =>
    have tried := mapFresh missing allowed
    rw [mapped] at tried
    exact tried.trans ih

/-- Placing one segment. -/
theorem loadSegment (memory : Memory) (handle : SpaceHandle) (segment : Segment) :
    Loads handle memory (memory.loadSegment handle segment).2 := by
  -- The pages are backed first, and then the contents are written.
  unfold Memory.loadSegment
  split
  · exact refl handle memory
  · have backed := backPages handle (isUserPermission_segment segment)
      (pagesSpanned segment.va (segment.va + segment.length)) (pageBase segment.va) memory
    dsimp only
    split
    · rename_i next refused
      rwa [refused] at backed
    · rename_i next placed
      rw [placed] at backed
      have written := backed.trans (copyOut next handle segment.va segment.contents)
      split
      · rename_i copied
        rwa [copied] at written
      · rename_i copied
        rwa [copied] at written

/-- Placing segments up to the first that fails. -/
theorem loadSegments (handle : SpaceHandle) (segments : List Segment) (memory : Memory) :
    Loads handle memory (memory.loadSegments handle segments).2 := by
  -- Follow the list of segments to its end or to the first failure.
  fun_induction Memory.loadSegments handle segments memory with
  | case1 memory => exact refl handle memory
  | case2 segment rest memory error next refused =>
    have placed := loadSegment memory handle segment
    rwa [refused] at placed
  | case3 segment rest memory next placed_eq ih =>
    have placed := loadSegment memory handle segment
    rw [placed_eq] at placed
    exact placed.trans ih

/-- Placing a program and its stack. -/
theorem loadImage (memory : Memory) (handle : SpaceHandle) (image : ProgramImage) :
    Loads handle memory (memory.loadImage handle image).2 := by
  -- The stack page comes after all segments.
  have placed := loadSegments handle image.segments memory
  unfold Memory.loadImage
  split
  · rename_i next refused
    rwa [refused] at placed
  · rename_i next done
    rw [done] at placed
    have allowed : PageFlags.readWrite.isUserPermission = true := by decide
    have stacked := placed.trans (backPages handle allowed 1 (stackTop - pageSize) next)
    split
    · rename_i refused
      rwa [refused] at stacked
    · rename_i backed
      rwa [backed] at stacked

end Loads

end Memory

namespace Kernel

variable {kernel next : Kernel} {slot : Slot} {space : SpaceHandle}

/-- A new environment has the space that was created for it. -/
theorem createSpace_of_allocEnv {parent : EnvId}
    (allocated : kernel.allocEnv parent = (.ok (slot, space), next)) :
    kernel.memory.createSpace = (.ok space, next.memory) := by
  -- The space is the first thing that a creation makes.
  obtain ⟨rest, memory, -, created, rfl⟩ := allocEnv_ok allocated
  exact created

/-- A new environment does not own the processor. -/
theorem Consistent.unowned_of_allocEnv (consistent : kernel.Consistent) {parent : EnvId}
    (allocated : kernel.allocEnv parent = (.ok (slot, space), next)) :
    next.current ≠ some slot := by
  obtain ⟨rest, room, -, -, rfl⟩ := Kernel.allocEnv_ok allocated
  -- The slot was free, so the owner was somebody else.
  intro current
  have owner := (consistent.running slot current).1
  rw [consistent.not_isLive_of_allocEnv allocated] at owner
  simp at owner

/-- Creating an environment, or failing to, keeps the kernel consistent. -/
theorem Consistent.createEnv (consistent : kernel.Consistent) (image : ProgramImage) :
    (kernel.createEnv image).2.Consistent := by
  -- Load into the new environment; a failure takes the environment away again.
  unfold Kernel.createEnv
  cases allocated : kernel.allocEnv .self with
  | mk result made =>
    cases result with
    | error error => exact consistent.allocEnv_error allocated
    | ok created =>
      obtain ⟨slot, space⟩ := created
      have begun := consistent.allocEnv_ok allocated
      have fresh := envAt_allocEnv allocated slot
      rw [if_pos rfl] at fresh
      have loads := Memory.Loads.loadImage made.memory space image
      have loaded := begun.setMemory (loads.sound begun.memory) loads.outside.isSome_eq
        loads.outside.active_eq
      have live : (made.envAt slot).isLive = true := by rw [fresh]; rfl
      dsimp only
      split
      · rename_i error memory failed
        rw [failed] at loaded
        exact loaded.freeEnv live (by rw [if_neg (consistent.unowned_of_allocEnv allocated)])
      · rename_i memory placed
        rw [placed] at loaded
        exact loaded.modifyEnv live
          ⟨loaded.envs.status_cases live, rfl, rfl, id, fun _ => .inl⟩

/-- Creating an environment disturbs neither the environments that exist nor the processor. -/
theorem Consistent.createEnv_outside (consistent : kernel.Consistent) (image : ProgramImage) :
    (kernel.createEnv image).2.current = kernel.current ∧
      ∀ slot, (kernel.envAt slot).isLive = true →
        (kernel.createEnv image).2.envAt slot = kernel.envAt slot := by
  -- The slot of the new environment was free, so it is none of the others.
  unfold Kernel.createEnv
  cases allocated : kernel.allocEnv .self with
  | mk result made =>
    cases result with
    | error error =>
      rcases Kernel.allocEnv_error allocated with rfl | ⟨-, memory, -, rfl⟩
      · exact ⟨rfl, fun _ _ => rfl⟩
      · exact ⟨rfl, fun _ _ => rfl⟩
    | ok created =>
      obtain ⟨slot, space⟩ := created
      have slots := envAt_allocEnv allocated
      have dead := consistent.not_isLive_of_allocEnv allocated
      have kept : made.current = kernel.current := by
        obtain ⟨rest, memory, -, -, rfl⟩ := Kernel.allocEnv_ok allocated
        rfl
      have different {other : Slot} (live : (kernel.envAt other).isLive = true) : other ≠ slot := by
        rintro rfl
        simp [dead] at live
      dsimp only
      split
      · refine ⟨kept, fun other live => ?_⟩
        rw [envAt_freeEnv, if_neg (different live)]
        exact (slots other).trans (if_neg (different live))
      · refine ⟨kept, fun other live => ?_⟩
        rw [envAt_modifyEnv, if_neg (different live)]
        exact (slots other).trans (if_neg (different live))

/-- Creating an environment changes neither what the kernel was told at boot nor the log. -/
theorem log_createEnv (kernel : Kernel) (image : ProgramImage) :
    (kernel.createEnv image).2.config = kernel.config ∧
      (kernel.createEnv image).2.monitor = kernel.monitor := by
  -- Neither allocating nor loading writes to the log.
  unfold createEnv
  cases allocated : kernel.allocEnv .self with
  | mk result made =>
    cases result with
    | error error =>
      rcases allocEnv_error allocated with rfl | ⟨-, memory, -, rfl⟩ <;> exact ⟨rfl, rfl⟩
    | ok created =>
      obtain ⟨rest, memory, -, -, rfl⟩ := allocEnv_ok allocated
      dsimp only
      split <;> exact ⟨rfl, rfl⟩

/-- Creating an environment leaves the kernel settled. -/
theorem Settled.createEnv (settled : kernel.Settled) (image : ProgramImage) :
    (kernel.createEnv image).2.Settled where
  toConsistent := settled.toConsistent.createEnv image
  ready slot current := by
    -- The owner of the processor is in another slot than the new environment.
    obtain ⟨kept, same⟩ := settled.toConsistent.createEnv_outside image
    have owns := kept.symm.trans current
    rw [same slot (settled.running slot owns).1]
    exact settled.ready slot owns

end Kernel

end Exokernel
