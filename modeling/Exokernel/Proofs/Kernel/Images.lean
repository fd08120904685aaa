import Exokernel.Proofs.Kernel.Calls
import Exokernel.Proofs.Kernel.ImageLayout
import Exokernel.Proofs.Profiles

/-! An environment that is created from an image has exactly that image in its memory. -/

namespace Exokernel

namespace Segment.Fits

variable {segment : Segment} {va other : Address} (fits : segment.Fits)
include fits

/-- Whether a segment is on a page does not depend on the address in the page. -/
theorem spans_congr (page : pageNumber other = pageNumber va) :
    segment.Spans other ↔ segment.Spans va := by
  -- A segment is rounded to whole pages.
  rw [fits.spans_iff, fits.spans_iff, pageNumber_eq_iff.mp page]

/-- A segment that is not empty has a byte on every page that it is on. -/
theorem exists_covers (filled : 0 < segment.length) (spans : segment.Spans va) :
    ∃ other, pageNumber other = pageNumber va ∧ segment.Covers other := by
  obtain ⟨first, last⟩ := fits.spans_iff.mp spans
  have positive : 0 < segment.length.toNat := UInt32.lt_iff_toNat_lt.mp filled
  -- On its first page that is its first byte, and on the others the byte at the page's base.
  by_cases begins : segment.va.toNat / 4096 = va.toNat / 4096
  · exact ⟨segment.va, pageNumber_eq_iff.mpr begins, le_rfl, by omega⟩
  · refine ⟨pageBase va, pageNumber_pageBase va, ?_⟩
    rw [Covers, toNat_pageBase]
    omega

end Segment.Fits

namespace ProgramImage

variable {image : ProgramImage} {va : Address}

/-- A page has a byte of a segment that the program may write to. -/
def HoldsWritable (image : ProgramImage) (va : Address) : Prop :=
  ∃ segment ∈ image.segments, segment.writable = true ∧
    ∃ other, pageNumber other = pageNumber va ∧ segment.Covers other

/-- The first segment on a page may be written to, or there is none. -/
def BeginsWritable (image : ProgramImage) (va : Address) : Prop :=
  ∀ segment, Segment.firstOn? image.segments va = some segment → segment.writable = true

/-- The segments on a page agree on whether it may be written to. -/
structure Agrees (image : ProgramImage) (va : Address) : Prop where
  /-- All of them say the same. -/
  alike : ∀ segment ∈ image.segments, segment.Spans va → ∀ other ∈ image.segments,
    other.Spans va → segment.writable = other.writable
  /-- None of them is empty. -/
  filled : ∀ segment ∈ image.segments, segment.Spans va → 0 < segment.length
  /-- On the stack they may be written to. -/
  stack : OnStack va → ∀ segment ∈ image.segments, segment.Spans va → segment.writable = true

/-- A page may be written to if the first segment on it may be. -/
theorem contains_permissionAt :
    (image.permissionAt va).contains .writable = true ↔ image.BeginsWritable va := by
  -- A page without a segment is the stack's, and may be written to.
  rw [permissionAt, BeginsWritable]
  cases Segment.firstOn? image.segments va with
  | none => exact ⟨fun _ segment found => by simp at found, fun _ => by decide⟩
  | some first =>
    show first.permission.contains .writable = true ↔ _
    rw [Segment.permission]
    cases writable : first.writable with
    | true => exact ⟨fun _ segment found => Option.some.inj found ▸ writable, fun _ => by decide⟩
    | false =>
      refine ⟨fun allowed => absurd allowed (by decide), fun all => ?_⟩
      rw [all first rfl] at writable
      simp at writable

/-- Where the segments on a page agree, the first one decides what all of them say. -/
theorem Agrees.beginsWritable_iff (agrees : image.Agrees va)
    (fits : ∀ segment ∈ image.segments, segment.Fits) (occupied : image.Occupies va) :
    image.BeginsWritable va ↔ image.HoldsWritable va ∨ OnStack va := by
  cases found : Segment.firstOn? image.segments va with
  | none =>
    -- Only the stack is on the page.
    have outside : ¬∃ segment ∈ image.segments, segment.Spans va := by
      simpa [Segment.firstOn?] using found
    refine ⟨fun _ => .inr (occupied.resolve_left outside), fun _ segment first => ?_⟩
    rw [found] at first
    simp at first
  | some first =>
    have member := List.mem_of_find?_eq_some found
    have spans : first.Spans va := by simpa using List.find?_some found
    have decides : image.BeginsWritable va ↔ first.writable = true :=
      ⟨fun begins => begins first found, fun writable segment again => by
        rw [found, Option.some.injEq] at again
        exact again ▸ writable⟩
    rw [decides]
    -- What the first segment says holds for all, since it is on the page like the others.
    constructor
    · intro writable
      exact .inl ⟨first, member, writable,
        (fits first member).exists_covers (agrees.filled first member spans) spans⟩
    · rintro (⟨segment, listed, writable, other, page, covers⟩ | stack)
      · have also := ((fits segment listed).spans_congr page).mp
          ((fits segment listed).spans_of_covers covers)
        rw [agrees.alike first member spans segment listed also, writable]
      · exact agrees.stack stack first member spans

end ProgramImage

namespace Memory

variable {memory next : Memory} {handle : SpaceHandle}

/-- Segments that can be placed fit into user memory. -/
theorem fits_of_loadSegments {segments : List Segment}
    (loaded : memory.loadSegments handle segments = (.ok (), next)) :
    ∀ segment ∈ segments, segment.Fits := by
  -- Induct on the segments, as they are placed one after another.
  fun_induction loadSegments handle segments memory with
  | case1 => simp
  | case2 segment rest memory error refused failed => simp at loaded
  | case3 segment rest memory first placed ih =>
    exact List.forall_mem_cons.mpr ⟨(loadSegment_ok placed).1, ih loaded⟩

end Memory

/-- The environment with another place to go on from. -/
def Env.startingAt (env : Env) (entry : Address) : Env :=
  { env with frame := { env.frame with context := { env.frame.context with eip := entry } } }

namespace Kernel

variable {kernel next : Kernel} {image : ProgramImage} {id : EnvId}

/-- An environment is about to start on an image, which is all that it has in memory. -/
structure StartsOn (kernel : Kernel) (image : ProgramImage) (id : EnvId) (env : Env)
    (space : SpaceHandle) : Prop where
  /-- The id names the environment. -/
  found : kernel.env? id = some env
  /-- It can run. -/
  runnable : env.status = .runnable
  /-- It has no parent. -/
  parent : env.parent = .self
  /-- It starts where the image says. -/
  entry : env.frame.context.eip = image.entry
  /-- Its stack is empty. -/
  stack : env.frame.context.esp = stackTop
  /-- It has a space of its own. -/
  held : env.space = some space
  /-- The image is there, and nothing else. -/
  carries : kernel.memory.Carries space image

/-- A creation that succeeds has allocated an environment, loaded the image and set its start. -/
theorem createEnv_ok (created : kernel.createEnv image = (.ok id, next)) :
    ∃ slot space made memory, kernel.allocEnv .self = (.ok (slot, space), made) ∧
      made.memory.loadImage space image = (.ok (), memory) ∧
      next = { made with memory }.modifyEnv slot (·.startingAt image.entry) ∧
      (next.envAt slot).id = id := by
  simp only [createEnv] at created
  -- Either step may fail, and then nothing is created.
  split at created
  · simp at created
  · rename_i slot space made allocated
    split at created
    · simp at created
    · rename_i memory loaded
      simp only [Prod.mk.injEq, Except.ok.injEq] at created
      obtain ⟨rfl, rfl⟩ := created
      exact ⟨slot, space, made, memory, allocated, loaded, rfl, rfl⟩

/-- Whatever image is loaded, the new environment starts on it. -/
theorem Settled.startsOn (settled : kernel.Settled)
    (created : kernel.createEnv image = (.ok id, next)) : (∃ env space,
      next.StartsOn image id env space) ∧ ∀ segment ∈ image.segments, segment.Fits := by
  have after := settled.createEnv image
  rw [created] at after
  obtain ⟨slot, space, made, memory, allocated, loaded, same, named⟩ := createEnv_ok created
  have begun := settled.toConsistent.allocEnv_ok allocated
  have carries := Memory.carries_of_loadImage begun.memory
    (Memory.entryAt?_createSpace (createSpace_of_allocEnv allocated)) loaded
  obtain ⟨placed, segments, -⟩ := Memory.loadImage_ok loaded
  -- The slot holds a new environment, of which loading has set the entry only.
  have fresh := envAt_allocEnv allocated slot
  rw [if_pos rfl] at fresh
  have env : next.envAt slot = (Env.fresh ((kernel.envAt slot).id.next slot) .self
      space).startingAt image.entry := by
    rw [same, envAt_modifyEnv, if_pos rfl, ← fresh]
    rfl
  have live : (next.envAt slot).isLive = true := by rw [env]; rfl
  have home : id.slot = slot := named ▸ (after.envs.named slot live).1
  exact ⟨⟨next.envAt slot, space,
    { found := env?_eq_some.mpr ⟨by rw [home], live, named⟩
      runnable := by rw [env]; rfl
      parent := by rw [env]; rfl
      entry := by rw [env]; rfl
      stack := by rw [env]; rfl
      held := by rw [env]; rfl
      carries := by rw [same]; exact carries }⟩, Memory.fits_of_loadSegments segments⟩

/-- The new environment's pages are those of its space. -/
theorem StartsOn.entryOf_eq {env : Env} {space : SpaceHandle}
    (starts : kernel.StartsOn image id env space) (va : Address) :
    kernel.entryOf id va = kernel.memory.entryAt? space va := by
  -- It is found by its id, and has that space.
  rw [entryOf, space?, starts.found, Option.bind_some, starts.held, Option.bind_some]

/-- In every state of the kernel, an environment that is created starts on exactly its image. -/
theorem startsOn_after (config : Config) (events : List KernelEvent) (image : ProgramImage)
    (id : EnvId) (created : ((after config events).createEnv image).1 = .ok id) :
    ∃ env space, ((after config events).createEnv image).2.StartsOn image id env space :=
  ((settled_after config events).startsOn (Prod.ext created rfl)).1

/--
An image whose second segment overlaps the end of the first: it is the second one's byte and zeros
that are found there, on either side of the page boundary.
-/
theorem startsOn_overlapping :
    let kernel := after { frames := 8 } []
    let image : ProgramImage :=
      { entry := 0x801ffe
        segments := [⟨0x801ffe, [1, 2, 3, 4], 6, true⟩, ⟨0x801fff, [9], 3, false⟩] }
    (kernel.createEnv image).1 = .ok ⟨4096⟩ ∧
      ∃ space, (kernel.createEnv image).2.memory.byteAt space 0x801ffe = 1 ∧
        (kernel.createEnv image).2.memory.byteAt space 0x801fff = 9 ∧
        (kernel.createEnv image).2.memory.byteAt space 0x802000 = 0 := by
  have created : ((after { frames := 8 } []).createEnv { entry := 0x801ffe, segments :=
      [⟨0x801ffe, [1, 2, 3, 4], 6, true⟩, ⟨0x801fff, [9], 3, false⟩] }).1 = .ok ⟨4096⟩ := by
    decide +kernel
  obtain ⟨env, space, starts⟩ := startsOn_after { frames := 8 } [] _ ⟨4096⟩ created
  -- What stands in the new space is what the layout of the image says.
  have byte (va : Address) := starts.carries.bytes va
  refine ⟨created, space, ?_, ?_, ?_⟩
  · rw [byte _ (by decide)]
    decide
  · rw [byte _ (by decide)]
    decide
  · rw [byte _ (by decide)]
    decide

/--
In every state of the kernel, a page of an environment that is created may be written to if the
first segment on it may be, or if it has only the stack. Where the segments on a page agree, those
are the pages with a byte of a segment that may be written to, and the stack.
-/
theorem writable_after (config : Config) (events : List KernelEvent) (image : ProgramImage)
    (id : EnvId) (created : ((after config events).createEnv image).1 = .ok id) (va : Address)
    (entry : PageEntry)
    (mapped : ((after config events).createEnv image).2.entryOf id va = some entry) :
    (entry.flags.contains .writable = true ↔ image.BeginsWritable va) ∧
      (image.Agrees va →
        (entry.flags.contains .writable = true ↔ image.HoldsWritable va ∨ OnStack va)) := by
  -- The space carries the image, page by page.
  obtain ⟨⟨env, space, starts⟩, fits⟩ :=
    (settled_after config events).startsOn (Prod.ext created rfl)
  have found := (starts.entryOf_eq va).symm.trans mapped
  have occupied := (starts.carries.mapped va).mp (by rw [found]; rfl)
  rw [starts.carries.permitted va entry found, ProgramImage.contains_permissionAt]
  exact ⟨Iff.rfl, fun agrees => agrees.beginsWritable_iff fits occupied⟩

/--
A read-only segment keeps a writable one behind it from being written to where both are on a page,
but not on a page that the writable one has for itself.
-/
theorem writable_behind_readOnly :
    let kernel := after { frames := 8 } []
    let image : ProgramImage :=
      { entry := 0x800000, segments := [⟨0x800000, [], 16, false⟩, ⟨0x800ff0, [], 32, true⟩] }
    let next := (kernel.createEnv image).2
    (kernel.createEnv image).1 = .ok ⟨4096⟩ ∧
      ((image.HoldsWritable 0x800ff0 ∧ ¬OnStack 0x800ff0) ∧ ∃ entry,
        next.entryOf ⟨4096⟩ 0x800ff0 = some entry ∧ ¬entry.flags.contains .writable = true) ∧
      image.Agrees 0x801000 ∧ ∃ entry,
        next.entryOf ⟨4096⟩ 0x801000 = some entry ∧ entry.flags.contains .writable = true := by
  intro kernel image next
  have created : (kernel.createEnv image).1 = .ok ⟨4096⟩ := by decide +kernel
  have shared : (next.entryOf ⟨4096⟩ 0x800ff0).isSome = true := by decide +kernel
  have alone : (next.entryOf ⟨4096⟩ 0x801000).isSome = true := by decide +kernel
  obtain ⟨first, foundFirst⟩ := Option.isSome_iff_exists.mp shared
  obtain ⟨second, foundSecond⟩ := Option.isSome_iff_exists.mp alone
  -- The second page belongs to the writable segment alone.
  have agrees : image.Agrees 0x801000 := by
    have only : ∀ segment ∈ image.segments, segment.Spans 0x801000 →
        segment.writable = true ∧ 0 < segment.length := by decide
    exact ⟨fun segment listed spans other also same =>
        (only segment listed spans).1.trans (only other also same).1.symm,
      fun segment listed spans => (only segment listed spans).2,
      fun stack => absurd stack (by decide)⟩
  have member : (⟨0x800ff0, [], 32, true⟩ : Segment) ∈ image.segments :=
    List.mem_cons_of_mem _ List.mem_cons_self
  refine ⟨created, ⟨⟨⟨_, member, rfl, 0x800ff0, rfl, by decide⟩, by decide⟩,
    first, foundFirst, fun allowed => ?_⟩, agrees, second, foundSecond, ?_⟩
  · -- A page that may be written to would begin with the read-only segment.
    have begins := (writable_after { frames := 8 } [] image ⟨4096⟩ created _ first
      foundFirst).1.mp allowed
    exact absurd (begins ⟨0x800000, [], 16, false⟩ rfl) (by decide)
  · refine ((writable_after { frames := 8 } [] image ⟨4096⟩ created _ second
      foundSecond).2 agrees).mpr (.inl ⟨_, member, rfl, 0x801000, rfl, by decide⟩)

end Kernel

end Exokernel
