import Exokernel.Proofs.Kernel.Isolation
import Exokernel.Proofs.Kernel.WriteAccess

/-! Which frames an environment sees, and what a step of it brings into view. -/

namespace Exokernel

namespace Memory

variable {memory next last : Memory} {handle : SpaceHandle} {gained : Set FrameNumber}

/-- Every mapping after a step was there before, or is of one of the given frames. -/
def Gains (memory : Memory) (gained : Set FrameNumber) (next : Memory) : Prop :=
  ∀ handle va entry, next.entryAt? handle va = some entry →
    memory.entryAt? handle va = some entry ∨ entry.frame ∈ gained

namespace Gains

/-- Memory gains nothing while nothing happens. -/
theorem refl (memory : Memory) (gained : Set FrameNumber) : memory.Gains gained memory :=
  fun _ _ _ => .inl

/-- What two steps gain is gained by both together. -/
theorem trans (first : memory.Gains gained next) (second : next.Gains gained last) :
    memory.Gains gained last := by
  -- An entry at the end is one of the middle or new, and one of the middle is old or new.
  intro handle va entry found
  rcases second handle va entry found with kept | new
  · exact first handle va entry kept
  · exact .inr new

/-- A step within one space gains what that space gains. -/
theorem ofEntries (outside : SameOutside handle memory next)
    (entries : ∀ va entry, next.entryAt? handle va = some entry →
      memory.entryAt? handle va = some entry ∨ entry.frame ∈ gained) :
    memory.Gains gained next := by
  -- All other spaces have the tables that they had.
  intro other va entry found
  by_cases same : other = handle
  · subst same
    exact entries va entry found
  · rw [entryAt?, outside.others other same, ← entryAt?] at found
    exact .inl found

/-- A mapping that is made gains its frame and no other. -/
theorem map (memory : Memory) (handle : SpaceHandle) (va : Address) (frame : FrameNumber)
    (flags : PageFlags) : memory.Gains {frame} (memory.map handle va frame flags).2 := by
  refine ofEntries (memory.sameOutside_map handle va frame flags) fun other entry found => ?_
  -- A refusal maps nothing, and a success maps the one frame.
  cases mapped : memory.map handle va frame flags with
  | mk result next =>
    rw [mapped] at found
    cases result with
    | error error =>
      rw [entryAt?, table?_map_error mapped, ← entryAt?] at found
      exact .inl found
    | ok =>
      rw [entryAt?_map mapped] at found
      split at found
      · exact .inr (congrArg PageEntry.frame (Option.some.inj found).symm)
      · exact .inl found

/-- A mapping that is removed gains nothing. -/
theorem unmap (memory : Memory) (handle : SpaceHandle) (va : Address) :
    memory.Gains gained (memory.unmap handle va).2 := by
  refine ofEntries (memory.sameOutside_unmap handle va) fun other entry found => ?_
  -- An entry that is left was there before.
  cases named : memory.table? handle with
  | none => simpa [Memory.unmap, named] using Or.inl found
  | some table =>
    rw [entryAt?_unmap named] at found
    split at found
    · simp at found
    · exact .inl found

/-- A fresh page is all zeros. -/
theorem mapFresh (memory : Memory) (handle : SpaceHandle) (va : Address) (flags : PageFlags) :
    memory.Gains {frame | (memory.mapFresh handle va flags).2.pool.page frame = Page.zero}
      (memory.mapFresh handle va flags).2 := by
  refine ofEntries (memory.sameOutside_mapFresh handle va flags) fun other entry found => ?_
  -- A refusal maps nothing, and a success maps one frame that was cleared.
  cases mapped : memory.mapFresh handle va flags with
  | mk result next =>
    rw [mapped] at found
    cases result with
    | error error =>
      rw [entryAt?, table?_mapFresh_error mapped, ← entryAt?] at found
      exact .inl found
    | ok =>
      obtain ⟨frame, -, zero, entries⟩ := mapFresh_ok_spec mapped
      rw [entries] at found
      split at found
      · have new := congrArg PageEntry.frame (Option.some.inj found)
        exact .inr (new ▸ zero)
      · exact .inl found

end Gains

end Memory

namespace PlannedMapping

/-- A planned mapping gains the frame that it plans for. -/
theorem gains_apply (planned : PlannedMapping) (memory : Memory) :
    memory.Gains {planned.frame} (planned.apply memory).2 :=
  .map memory planned.space planned.va planned.frame planned.flags

/-- So does one that takes the place of another. -/
theorem gains_replace (planned : PlannedMapping) (memory : Memory) :
    memory.Gains {planned.frame} (planned.replace memory).2 := by
  have removed : memory.Gains {planned.frame} (memory.unmap planned.space planned.va).2 :=
    .unmap memory planned.space planned.va
  -- The page is unmapped first, which shows nothing that is new.
  unfold replace
  split
  · rename_i error next failed
    rwa [failed] at removed
  · rename_i next done
    rw [done] at removed
    exact removed.trans (planned.gains_apply next)

end PlannedMapping

namespace Kernel

open Memory (Gains)

/-- Frames that an environment has mapped, or a live child of it. -/
def seen (kernel : Kernel) (id : EnvId) : Set FrameNumber :=
  -- A child counts while its creator lives on as its parent by name.
  { frame | ∃ slot space va entry, (kernel.envAt slot).isLive = true ∧
    ((kernel.envAt slot).id = id ∨ (kernel.envAt slot).parent = id) ∧
    (kernel.envAt slot).space = some space ∧ kernel.memory.entryAt? space va = some entry ∧
    entry.frame = frame }

/-- After a step an environment sees what it saw before, and frames of zeros. -/
def Reveals (kernel : Kernel) (id : EnvId) (next : Kernel) : Prop :=
  ∀ frame ∈ next.seen id, frame ∈ kernel.seen id ∨ next.memory.pool.page frame = Page.zero

/-- Whoever has a space after a step had it before, with the same id and creator, or it is empty. -/
def Inherits (kernel next : Kernel) : Prop :=
  -- A new environment has an empty space as long as it is not loaded or forked into.
  ∀ slot space, (next.envAt slot).space = some space →
    ((kernel.envAt slot).space = some space ∧ (next.envAt slot).id = (kernel.envAt slot).id ∧
      (next.envAt slot).parent = (kernel.envAt slot).parent) ∨
    ∀ va, next.memory.entryAt? space va = none

variable {kernel other next last : Kernel} {owner slot : Slot} {frame : TrapFrame}
  {address : Address} {id : EnvId} {gained : Set FrameNumber} {space : SpaceHandle}

section Inherits

/-- A change that keeps spaces, ids and creators. -/
theorem Inherits.of_envs (envs : ∀ slot, (next.envAt slot).space = (kernel.envAt slot).space ∧
    (next.envAt slot).id = (kernel.envAt slot).id ∧
    (next.envAt slot).parent = (kernel.envAt slot).parent) : kernel.Inherits next := by
  -- Whoever has a space had it before, with the same id and creator.
  intro slot space held
  obtain ⟨same, kept⟩ := envs slot
  exact .inl ⟨same ▸ held, kept⟩

/-- Environments that have not changed inherit from themselves. -/
theorem Inherits.of_envs_eq (same : next.envs = kernel.envs) : kernel.Inherits next := by
  -- Every slot has what it had.
  refine .of_envs fun slot => ?_
  rw [envAt, same]
  exact ⟨rfl, rfl, rfl⟩

/-- A change that keeps spaces, ids and creators lets everyone inherit. -/
theorem Inherits.modifyEnv {change : Env → Env} (before : next.envs = kernel.envs)
    (kept : ∀ env, (change env).space = env.space ∧ (change env).id = env.id ∧
      (change env).parent = env.parent) :
    kernel.Inherits (next.modifyEnv slot change) := by
  -- The environments before the change are those of the kernel.
  have same (place : Slot) : next.envAt place = kernel.envAt place := by
    rw [envAt, before]
    rfl
  refine .of_envs fun other => ?_
  rw [envAt_modifyEnv, same, same]
  split
  · rename_i here
    exact here ▸ kept (kernel.envAt other)
  · exact ⟨rfl, rfl, rfl⟩

/-- When an environment is freed, the others inherit what they had. -/
theorem Inherits.freeEnv (kernel : Kernel) (slot : Slot) :
    kernel.Inherits (kernel.freeEnv slot) := by
  -- The environment that goes has no space any more.
  intro other space held
  rw [envAt_freeEnv] at held ⊢
  split at held
  · simp [Env.vacated] at held
  · rename_i elsewhere
    rw [if_neg elsewhere]
    exact .inl ⟨held, rfl, rfl⟩

end Inherits

/-- What is seen after a step was seen before, or comes from the mappings that are new. -/
theorem Consistent.reveals (consistent : kernel.Consistent) (inherits : kernel.Inherits next)
    (gains : kernel.memory.Gains gained next.memory)
    (known : ∀ frame ∈ gained,
      frame ∈ kernel.seen id ∨ next.memory.pool.page frame = Page.zero) :
    kernel.Reveals id next := by
  rintro _ ⟨slot, space, va, entry, -, family, held, found, rfl⟩
  -- A space was there before, with the same owner, or it is new and empty.
  rcases inherits slot space held with ⟨before, sameId, sameParent⟩ | empty
  · rcases gains space va entry found with kept | new
    · rw [sameId, sameParent] at family
      exact .inl ⟨slot, space, va, entry, consistent.isLive_of_space before, family, before, kept,
        rfl⟩
    · exact known entry.frame new
  · rw [empty va] at found
    simp at found

/-- A step without new mappings reveals nothing. -/
theorem Consistent.reveals_of_gains_empty (consistent : kernel.Consistent)
    (inherits : kernel.Inherits next) (gains : kernel.memory.Gains ∅ next.memory) :
    kernel.Reveals id next :=
  consistent.reveals inherits gains fun _ none => none.elim

/-- A page that is offered from a space of the family is seen. -/
theorem mem_seen (consistent : kernel.Consistent) (held : (kernel.envAt slot).space = some space)
    (family : (kernel.envAt slot).id = id ∨ (kernel.envAt slot).parent = id) {va : Address}
    {entry : PageEntry} (found : kernel.memory.entryAt? space va = some entry) :
    entry.frame ∈ kernel.seen id :=
  ⟨slot, space, va, entry, consistent.isLive_of_space held, family, held, found, rfl⟩

/-- Whoever the owner of the processor may change belongs to its family. -/
theorem family_of_findOwned (owns : kernel.current = some owner) {target : EnvId}
    (found : kernel.findOwned target = .ok slot) :
    (kernel.envAt slot).id = (kernel.envAt owner).id ∨
      (kernel.envAt slot).parent = (kernel.envAt owner).id := by
  -- The look-up with the permission check lets through the caller and its children only.
  rw [findOwned, owns] at found
  rcases EnvTable.findOwned_ok found with rfl | ⟨-, parent⟩
  · exact .inl rfl
  · exact .inr parent

/-- The page of a message is one that its sender has mapped. -/
theorem Consistent.gains_placePage (consistent : kernel.Consistent)
    (owns : kernel.current = some owner) {request : SendRequest} {delivery : Delivery}
    (resolved : kernel.resolveSend request = .ok delivery) :
    kernel.memory.Gains (kernel.seen (kernel.envAt owner).id)
      (delivery.placePage kernel.memory).2 := by
  obtain ⟨-, -, -, -, paged⟩ := resolveSend_ok owns resolved
  unfold Delivery.placePage
  cases carried : delivery.page with
  | none => exact .refl _ _
  | some planned =>
    rw [carried] at paged
    obtain ⟨sourceSpace, flags, -, sending, -, -, offers⟩ := resolvePage_some paged
    -- The planned frame is mapped in the space of the sender.
    intro handle va entry found
    rcases planned.gains_replace kernel.memory handle va entry found with kept | new
    · exact .inl kept
    · have sent := mem_seen consistent sending (.inl rfl) offers.mapped
      exact .inr (Set.mem_singleton_iff.mp new ▸ sent)

/-- A child starts with nothing in its space. -/
theorem inherits_fork {parent : EnvId} {child : Slot}
    (allocated : kernel.allocEnv parent = (.ok (child, space), next)) (model : Env) :
    kernel.Inherits (next.modifyEnv child (·.asChildOf model)) ∧
      kernel.memory.Gains ∅ (next.modifyEnv child (·.asChildOf model)).memory := by
  have slots := envAt_allocEnv allocated
  obtain ⟨rest, memory, -, created, rfl⟩ := allocEnv_ok allocated
  have empty (va : Address) : memory.entryAt? space va = none :=
    Memory.entryAt?_createSpace created va
  obtain ⟨-, -, others, -⟩ := Memory.createSpace_ok_spec created
  refine ⟨fun slot handle held => ?_, fun handle va entry found => ?_⟩
  · rw [envAt_modifyEnv, slots, slots] at held ⊢
    by_cases new : slot = child
    · rw [if_pos new, if_pos rfl] at held
      have same : space = handle := Option.some.inj held
      exact .inr fun va => same ▸ empty va
    · rw [if_neg new, if_neg new] at held ⊢
      exact .inl ⟨held, rfl, rfl⟩
  · -- The new space has no entries, and the others are as they were.
    by_cases new : handle = space
    · have none : memory.entryAt? handle va = none := new ▸ empty va
      simp [show memory.entryAt? handle va = some entry from found] at none
    · rw [Memory.entryAt?, ← others handle new, ← Memory.entryAt?]
      exact .inl found

/-- Without a child every space is as it was. -/
theorem inherits_unforked {parent : EnvId} {error : SysError}
    (refused : kernel.allocEnv parent = (.error error, next)) :
    kernel.Inherits next ∧ kernel.memory.Gains ∅ next.memory := by
  -- Slots may have run out, or frames; then a forced failure may have been used up.
  rcases allocEnv_error refused with rfl | ⟨cause, memory, failed, rfl⟩
  · exact ⟨.of_envs_eq rfl, .refl _ _⟩
  · refine ⟨.of_envs_eq rfl, fun handle va entry found => .inl ?_⟩
    rwa [Memory.entryAt?, Memory.table?_congr (Memory.createSpace_error_spec failed).1,
      ← Memory.entryAt?] at found

/-- Before the next environment is chosen, a trap reveals nothing but fresh frames. -/
theorem Consistent.reveals_effect (consistent : kernel.Consistent)
    (owns : kernel.current = some owner) {acted : Kernel} {answer : Option Word}
    (effect : Effect kernel owner frame address acted answer) :
    kernel.Reveals (kernel.envAt owner).id acted := by
  have unchanged : kernel.memory.Gains ∅ kernel.memory := .refl _ _
  -- One case for each effect; the last ones concern neither memory nor environments.
  cases effect with
  | @fault delivery memory planned recorded =>
    refine consistent.reveals_of_gains_empty (.modifyEnv rfl fun _ => ⟨rfl, rfl, rfl⟩) ?_
    intro handle va entry found
    have same := kernel.memory.entryAt?_copyOut delivery.space delivery.recordAt
      (FaultRecord.ofFrame frame address).encode handle va
    rw [recorded] at same
    exact .inl (same ▸ found)
  | exit =>
    refine consistent.reveals_of_gains_empty (.freeEnv kernel owner) ?_
    exact fun handle va entry found =>
      .inl ((contents_freeEnv kernel owner).1 handle va entry found)
  | @destroy words slot request found other =>
    refine consistent.reveals_of_gains_empty (.freeEnv kernel slot) ?_
    exact fun handle va entry found =>
      .inl ((contents_freeEnv kernel slot).1 handle va entry found)
  | setStatus request settable found =>
    exact consistent.reveals_of_gains_empty (.modifyEnv rfl fun _ => ⟨rfl, rfl, rfl⟩) unchanged
  | setFaultEntry faultEntry request found =>
    exact consistent.reveals_of_gains_empty (.modifyEnv rfl fun _ => ⟨rfl, rfl, rfl⟩) unchanged
  | receive request resolved =>
    exact consistent.reveals_of_gains_empty (.modifyEnv rfl fun _ => ⟨rfl, rfl, rfl⟩) unchanged
  -- A page that is new to a space is all zeros.
  | allocPage value request resolved =>
    exact consistent.reveals (.of_envs_eq rfl) (.mapFresh _ _ _ _) fun frame zero => .inr zero
  | @mapPage words planned value request resolved =>
    obtain ⟨source, -, sourceSpace, held, sourceFound, -, sourceHeld, -, -, -, offers⟩ :=
      resolveMap_ok resolved
    refine consistent.reveals (.of_envs_eq rfl) (planned.gains_apply _) fun frame shared => .inl ?_
    -- The caller itself or a child of it had the page mapped already.
    rw [Set.mem_singleton_iff.mp shared]
    exact mem_seen consistent sourceHeld (family_of_findOwned owns sourceFound) offers.mapped
  | unmapPage value request resolved =>
    exact consistent.reveals_of_gains_empty (.of_envs_eq rfl) (.unmap _ _ _)
  | deliver value request resolved placed =>
    have gains := consistent.gains_placePage owns resolved
    rw [placed] at gains
    exact consistent.reveals (.modifyEnv rfl fun _ => ⟨rfl, rfl, rfl⟩) gains
      fun frame sent => .inl sent
  | undelivered request resolved unplaced =>
    have gains := consistent.gains_placePage owns resolved
    rw [unplaced] at gains
    exact consistent.reveals (.of_envs_eq rfl) gains fun frame sent => .inl sent
  | fork value request allocated =>
    obtain ⟨inherits, gains⟩ := inherits_fork allocated (kernel.envAt owner)
    exact consistent.reveals_of_gains_empty inherits gains
  | unforked request refused =>
    obtain ⟨inherits, gains⟩ := inherits_unforked refused
    exact consistent.reveals_of_gains_empty inherits gains
  | _ => exact consistent.reveals_of_gains_empty (.of_envs_eq rfl) unchanged

/-- What an environment sees depends on who has which space, and on what is mapped there. -/
theorem seen_congr (envs : ∀ slot, (next.envAt slot).isLive = (kernel.envAt slot).isLive ∧
      (next.envAt slot).id = (kernel.envAt slot).id ∧
      (next.envAt slot).parent = (kernel.envAt slot).parent ∧
      (next.envAt slot).space = (kernel.envAt slot).space)
    (entries : ∀ space va, next.memory.entryAt? space va = kernel.memory.entryAt? space va) :
    next.seen id = kernel.seen id := by
  -- The set is described by nothing but these fields and entries.
  have lives (slot : Slot) := (envs slot).1
  have ids (slot : Slot) := (envs slot).2.1
  have parents (slot : Slot) := (envs slot).2.2.1
  have spaces (slot : Slot) := (envs slot).2.2.2
  simp only [seen, lives, ids, parents, spaces, entries]

/-- A change of one environment that keeps what identifies it keeps what is seen. -/
theorem seen_modifyEnv {change : Env → Env}
    (kept : ∀ env, (change env).isLive = env.isLive ∧ (change env).id = env.id ∧
      (change env).parent = env.parent ∧ (change env).space = env.space) :
    (kernel.modifyEnv slot change).seen id = kernel.seen id := by
  -- The slot is the one that was changed, or another one.
  refine seen_congr (fun other => ?_) fun _ _ => rfl
  rw [envAt_modifyEnv]
  split
  · rename_i here
    exact here ▸ kept (kernel.envAt other)
  · exact ⟨rfl, rfl, rfl, rfl⟩

/-- To save registers shows nothing. -/
theorem seen_saved : (kernel.saved owner frame).seen id = kernel.seen id :=
  seen_modifyEnv fun _ => ⟨rfl, rfl, rfl, rfl⟩

/-- To answer a call shows nothing. -/
theorem seen_answered (kernel : Kernel) (answer : Option Word) :
    (kernel.answered answer).seen id = kernel.seen id := by
  -- The answer is a register of one environment, or there is none.
  rcases kernel.answered_cases answer with same | ⟨owner, value, -, same⟩ <;> rw [same]
  exact seen_modifyEnv fun _ => ⟨rfl, rfl, rfl, rfl⟩

/-- What is none of the environments' business reveals nothing. -/
theorem Undisturbed.seen_eq (undisturbed : kernel.Undisturbed next) :
    next.seen id = kernel.seen id := by
  -- What is seen depends on the environments and the entries, not on what is active.
  refine seen_congr (fun slot => ?_) fun space va => ?_
  · obtain ⟨runs, same⟩ := undisturbed.envs slot
    rw [same]
    exact ⟨rfl, rfl, rfl, rfl⟩
  · obtain ⟨active, same⟩ := undisturbed.memory
    rw [same]
    rfl

/-- A trap reveals nothing to the owner of the processor but fresh frames. -/
theorem Settled.reveals_trap (settled : kernel.Settled) (owns : kernel.current = some owner)
    (frame : TrapFrame) (address : Address) :
    kernel.Reveals (kernel.envAt owner).id (kernel.trap frame address).2 := by
  intro number member
  by_cases user : frame.fromUser = true
  · obtain ⟨consistent, savedOwns, -⟩ := settled.saved user owns
    obtain ⟨acted, answer, effect, ends⟩ := settled.trap_owned user owns address
    have ownId : ((kernel.saved owner frame).envAt owner).id = (kernel.envAt owner).id := by
      rw [envAt_saved, if_pos rfl]
    -- Neither saving the registers nor the end of the trap changes what is seen.
    rw [ends.undisturbed.seen_eq, seen_answered] at member
    obtain ⟨active, same⟩ := ends.undisturbed.memory
    have pool : (kernel.trap frame address).2.memory.pool = acted.memory.pool := by
      rw [same, Memory.activate, (acted.answered_keeps answer owner).1]
    have reveals := consistent.reveals_effect savedOwns effect
    rw [ownId] at reveals
    rw [pool, ← seen_saved]
    exact reveals number member
  · -- A trap of the kernel itself concerns neither memory nor environments.
    left
    rw [(undisturbed_trap (absurd · user) address).seen_eq] at member
    exact member

/-- An environment without children sees no frame but those of its own space. -/
theorem not_mem_seen {number : FrameNumber}
    (single : ∀ slot, (kernel.envAt slot).isLive = true →
      (kernel.envAt slot).id = id ∨ (kernel.envAt slot).parent = id → slot = owner)
    (elsewhere : ((kernel.envAt owner).space.bind kernel.memory.table?).all
      fun table => table.entries.values.all (·.frame != number)) : number ∉ kernel.seen id := by
  -- The entry would stand in the one page table that was looked through.
  rintro ⟨slot, space, va, entry, live, family, held, found, rfl⟩
  obtain rfl := single slot live family
  obtain ⟨table, named, inside⟩ := Option.bind_eq_some_iff.mp found
  rw [held, Option.bind_some, named, Option.all_some, List.all_eq_true] at elsewhere
  have apart := elsewhere entry ((table.entries.mem_values_iff entry).mpr ⟨pageNumber va, inside⟩)
  simp at apart

end Kernel

end Exokernel
