import Exokernel.Proofs.Kernel.Hidden
import Exokernel.Proofs.Kernel.Visibility

/-! No information reaches an environment through frames that it cannot see. -/

namespace Exokernel

namespace Kernel

/-- Two kernels differ at most in the bytes of frames that an environment cannot see. -/
def SameTo (me : EnvId) (kernel other : Kernel) : Prop :=
  kernel.hide (kernel.seen me) = other.hide (kernel.seen me)

variable {kernel other next last : Kernel} {owner : Slot} {me : EnvId}

/-- What is hidden twice shows only what is shown both times. -/
theorem hide_hide {shown fewer : Set FrameNumber} (subset : fewer ⊆ shown) (kernel : Kernel) :
    (kernel.hide shown).hide fewer = kernel.hide fewer := by
  -- Pages are hidden in the pool, and the rest of the kernel stays.
  simp only [hide, Memory.hide, FramePool.hide_hide subset]

/-- Frames that hold zeros may as well be hidden. -/
theorem hide_union {zeros : Set FrameNumber}
    (blank : ∀ frame ∈ zeros, kernel.memory.pool.page frame = Page.zero)
    (shown : Set FrameNumber) : kernel.hide (shown ∪ zeros) = kernel.hide shown := by
  -- Pages are hidden in the pool, and the rest of the kernel stays.
  simp only [hide, Memory.hide, FramePool.hide_union blank]

/-- Kernels with the same environments and mappings show an environment the same frames. -/
theorem seen_of_hide_eq {shown : Set FrameNumber} (same : kernel.hide shown = other.hide shown)
    (me : EnvId) : other.seen me = kernel.seen me := by
  -- Which frames are seen depends on mappings, and these are never hidden.
  have hidden (kernel : Kernel) : (kernel.hide shown).seen me = kernel.seen me := rfl
  rw [← hidden kernel, same, hidden]

/-- Kernels that an environment cannot tell apart show it the same frames. -/
theorem SameTo.seen_eq (same : SameTo me kernel other) : other.seen me = kernel.seen me :=
  seen_of_hide_eq same me

/-- What two steps reveal is the same if nothing but zeros is new. -/
theorem SameTo.step (same : SameTo me kernel other)
    (steps : next.hide (kernel.seen me) = last.hide (kernel.seen me))
    (first : kernel.Reveals me next) (second : other.Reveals me last) : SameTo me next last := by
  -- Frames that come into view are blank in both kernels, so they can be shown in both.
  have blank (frame : FrameNumber) (new : frame ∈ next.seen me \ kernel.seen me) :
      next.memory.pool.page frame = Page.zero ∧ last.memory.pool.page frame = Page.zero := by
    obtain ⟨member, unseen⟩ := new
    have twin : frame ∈ last.seen me := seen_of_hide_eq steps me ▸ member
    exact ⟨(first frame member).resolve_left unseen,
      (second frame twin).resolve_left (same.seen_eq ▸ unseen)⟩
  have shown : next.hide (kernel.seen me ∪ next.seen me \ kernel.seen me) =
      last.hide (kernel.seen me ∪ next.seen me \ kernel.seen me) := by
    rw [hide_union fun frame new => (blank frame new).1, steps,
      hide_union fun frame new => (blank frame new).2]
  have covered : next.seen me ⊆ kernel.seen me ∪ next.seen me \ kernel.seen me := by
    rw [Set.union_sdiff_self]
    exact Set.subset_union_right
  rw [SameTo, ← hide_hide covered next, shown, hide_hide covered]

/-- Bytes that are written to frames out of sight make no difference. -/
theorem sameTo_copyOut {handle : SpaceHandle} {va : Address}
    {bytes : List UInt8} (hidden : ∀ offset < bytes.length, ∀ entry,
      kernel.memory.entryAt? handle (va + UInt32.ofNat offset) = some entry →
        entry.frame ∉ kernel.seen me) :
    SameTo me kernel { kernel with memory := (kernel.memory.copyOut handle va bytes).2 } := by
  -- What is written is hidden on one side and was hidden on the other.
  rw [SameTo, hide, hide, Memory.hide_copyOut hidden]

/-- The frames of the owner of the processor are among those that it sees. -/
theorem Consistent.shows_seen (consistent : kernel.Consistent)
    (owns : kernel.current = some owner) : kernel.Shows (kernel.seen (kernel.envAt owner).id) := by
  intro slot space current held va entry found
  -- The space in use is the owner's, and its own frames are seen.
  rw [owns, Option.some.injEq] at current
  subst current
  exact mem_seen consistent held (.inl rfl) found

end Kernel

namespace Machine

variable {machine : Machine} {shown : Set FrameNumber}

/-- The machine with zeros for the contents of every frame that is not shown. -/
noncomputable def hide (shown : Set FrameNumber) (machine : Machine) : Machine :=
  { machine with kernel := machine.kernel.hide shown }

/-- Every frame is shown that whoever runs has mapped, in the kernel's view and the processor's. -/
structure Shows (machine : Machine) (shown : Set FrameNumber) : Prop where
  /-- The space of the owner of the processor. -/
  owner : machine.kernel.Shows shown
  /-- The space in use. -/
  active : ∀ space, machine.kernel.memory.active = some space →
    machine.kernel.memory.Shows shown space

/-- The processor does the same whichever frames are hidden. -/
theorem apply_hide (shown : Set FrameNumber) (outcome : Dispatch × Kernel) :
    apply (Prod.map id (Kernel.hide shown) outcome) = (apply outcome).hide shown := by
  obtain ⟨decision, kernel⟩ := outcome
  -- The decision is the same on both sides.
  cases decision <;> rfl

/-- A trap does the same whichever frames the environment does not see. -/
theorem raise_hide (shows : machine.Shows shown) (vector code : Word) (address : Address) :
    (machine.hide shown).raise vector code address =
      (machine.raise vector code address).hide shown := by
  -- Who runs, and with which registers, is not hidden.
  have cpu : (machine.hide shown).cpu = machine.cpu := (rfl)
  have kernel : (machine.hide shown).kernel = machine.kernel.hide shown := (rfl)
  simp only [raise, cpu, kernel, Kernel.trap_hide shows.owner, apply_hide]
  split <;> rfl

/-- A range is resolved alike whichever frames are hidden. -/
theorem resolveRange_hide (shows : machine.Shows shown) (write : Bool) (va : Address)
    (length : Nat) : (machine.hide shown).resolveRange write va length =
      Prod.map id (hide shown) (machine.resolveRange write va length) := by
  -- What decides about the access is who runs, which space is in use and what it maps.
  have current : (machine.hide shown).current = machine.current := (rfl)
  have active : (machine.hide shown).kernel.memory.active = machine.kernel.memory.active := (rfl)
  have refusal (address : Address) :
      (machine.hide shown).refusal? write address = machine.refusal? write address := (rfl)
  have first : (machine.hide shown).firstRefusal write va length =
      machine.firstRefusal write va length := by
    simp only [firstRefusal, refusal]
  simp only [resolveRange, current, active, first, refusal, raise_hide shows]
  split
  · rfl
  · split
    · rfl
    · split <;> rfl

/-- A load reads frames that are shown. -/
theorem load_hide (shows : machine.Shows shown) (va : Address) (length : Nat) :
    (machine.hide shown).load va length = Prod.map id (hide shown) (machine.load va length) := by
  rw [load, resolveRange_hide shows, load]
  cases resolved : machine.resolveRange false va length with
  | mk result next =>
    cases result with
    | error trapped => rfl
    | ok space =>
      obtain ⟨rfl, active, -⟩ := resolveRange_ok resolved
      -- The space in use is one that is shown.
      have bytes := Memory.copyIn_hide (shows.active space active) va length
      have memory : (next.hide shown).kernel.memory = next.kernel.memory.hide shown := rfl
      simp only [Prod.map_apply, id_eq, memory, bytes]
      split <;> rfl

/-- A store writes frames that are shown. -/
theorem store_hide (shows : machine.Shows shown) (va : Address) (data : List UInt8) :
    (machine.hide shown).store va data = Prod.map id (hide shown) (machine.store va data) := by
  rw [store, resolveRange_hide shows, store]
  cases resolved : machine.resolveRange true va data.length with
  | mk result next =>
    cases result with
    | error trapped => rfl
    | ok space =>
      obtain ⟨rfl, active, -⟩ := resolveRange_ok resolved
      -- The space in use is one that is shown.
      have written := Memory.copyOut_hide (shows.active space active) va data
      have memory : (next.hide shown).kernel.memory = next.kernel.memory.hide shown := rfl
      simp only [Prod.map_apply, id_eq, memory, written]
      rfl

end Machine

namespace Kernel

variable {kernel other : Kernel} {owner : Slot} {me : EnvId}

/-- The outcomes of an access in two machines are the same to an environment. -/
structure SameAccess (me : EnvId) {α : Type} (first second : α × Machine) : Prop where
  /-- The same value is returned. -/
  value : first.1 = second.1
  /-- The processor does the same. -/
  cpu : first.2.cpu = second.2.cpu
  /-- The kernels differ at most in bytes that the environment cannot see. -/
  kernel : SameTo me first.2.kernel second.2.kernel

/-- Nothing that an environment does depends on frames that it cannot see. -/
structure NonInterfering (me : EnvId) (kernel other : Kernel) : Prop where
  /-- A trap ends in the same way, and leaves the kernels as much the same as they were. -/
  trap : ∀ frame address, frame.fromUser = true →
    (kernel.trap frame address).1 = (other.trap frame address).1 ∧
      SameTo me (kernel.trap frame address).2 (other.trap frame address).2
  /-- A load gives the same bytes, or the same trap. -/
  load : ∀ cpu va length, SameAccess me (Machine.load { kernel, cpu } va length)
    (Machine.load { kernel := other, cpu } va length)
  /-- A store ends in the same way. -/
  store : ∀ cpu va data, SameAccess me (Machine.store { kernel, cpu } va data)
    (Machine.store { kernel := other, cpu } va data)

/-- The processor uses the space of the owner of the processor, if it uses one. -/
theorem Settled.machine_shows (settled : kernel.Settled) (owns : kernel.current = some owner)
    (cpu : CpuState) :
    Machine.Shows { kernel, cpu } (kernel.seen (kernel.envAt owner).id) where
  owner := settled.shows_seen owns
  active space used := settled.shows_seen owns owner space owns
    ((settled.running owner owns).2.2.symm.trans used)

/-- A load brings no frame into view that was in use elsewhere. -/
theorem Settled.reveals_load (settled : kernel.Settled) (owns : kernel.current = some owner)
    (cpu : CpuState) (va : Address) (length : Nat) :
    kernel.Reveals (kernel.envAt owner).id (Machine.load { kernel, cpu } va length).2.kernel := by
  -- If it changed anything, it was by the trap that a fault is.
  rcases Machine.kernel_load { kernel, cpu } va length with same | ⟨frame, address, entered⟩
  · rw [same]
    exact fun _ => .inl
  · rw [entered]
    exact settled.reveals_trap owns frame address

/-- A store brings no frame into view that was in use elsewhere. -/
theorem Settled.reveals_store (settled : kernel.Settled) (owns : kernel.current = some owner)
    (cpu : CpuState) (va : Address) (data : List UInt8) :
    kernel.Reveals (kernel.envAt owner).id (Machine.store { kernel, cpu } va data).2.kernel := by
  rcases Machine.kernel_store { kernel, cpu } va data with
    same | ⟨frame, address, entered⟩ | ⟨space, -, written, -⟩
  · rw [same]
    exact fun _ => .inl
  · rw [entered]
    exact settled.reveals_trap owns frame address
  · -- Writing bytes maps nothing.
    rw [written]
    refine settled.reveals_of_gains_empty (.of_envs_eq rfl) fun handle place entry found => ?_
    rw [Memory.entryAt?_copyOut] at found
    exact .inl found

/-- An access that is not disturbed by hiding, and reveals nothing, ends alike in two kernels. -/
theorem SameTo.access (same : SameTo me kernel other) {cpu : CpuState} {α : Type}
    (access : Machine → α × Machine)
    (first : access (Machine.hide (kernel.seen me) { kernel, cpu }) =
      Prod.map id (Machine.hide (kernel.seen me)) (access { kernel, cpu }))
    (second : access (Machine.hide (kernel.seen me) { kernel := other, cpu }) =
      Prod.map id (Machine.hide (kernel.seen me)) (access { kernel := other, cpu }))
    (reveals : kernel.Reveals me (access { kernel, cpu }).2.kernel)
    (twin : other.Reveals me (access { kernel := other, cpu }).2.kernel) :
    SameAccess me (access { kernel, cpu }) (access { kernel := other, cpu }) := by
  -- Once the frames are hidden, the two machines are one.
  have hidden : Machine.hide (kernel.seen me) { kernel, cpu } =
      Machine.hide (kernel.seen me) { kernel := other, cpu } :=
    congrArg (fun kernel => ({ kernel, cpu } : Machine)) same
  rw [hidden, second, Prod.ext_iff] at first
  obtain ⟨value, machines⟩ := first
  exact ⟨value.symm, (congrArg Machine.cpu machines).symm,
    same.step (congrArg Machine.kernel machines).symm reveals twin⟩

/--
No information flows through frames that an environment cannot see: if it owns the processor of
two kernels that differ in the bytes of such frames only, whatever it does has the same outcome in
both, and they still differ in such bytes only.
-/
theorem nonInterfering_of_sameTo (settled : kernel.Settled) (twin : other.Settled)
    (running : kernel.currentId = some me) (same : SameTo me kernel other) :
    NonInterfering me kernel other := by
  obtain ⟨owner, owns, rfl⟩ := Option.map_eq_some_iff.mp running
  -- The other kernel has the same environment in the same slot.
  have twinOwns : other.current = some owner := (congrArg Kernel.current same).symm.trans owns
  have twinId : (other.envAt owner).id = (kernel.envAt owner).id :=
    congrArg (fun kernel => (kernel.envAt owner).id) same.symm
  have shows := settled.shows_seen owns
  have twinShows := twin.shows_seen twinOwns
  rw [twinId, same.seen_eq] at twinShows
  have visible (cpu : CpuState) := settled.machine_shows owns cpu
  have twinVisible (cpu : CpuState) := twin.machine_shows twinOwns cpu
  rw [twinId, same.seen_eq] at twinVisible
  refine
    { trap := fun frame address _ => ?_
      load := fun cpu va length => ?_
      store := fun cpu va data => ?_ }
  · have first := Kernel.trap_hide shows frame address
    rw [same, Kernel.trap_hide twinShows, Prod.ext_iff] at first
    obtain ⟨decision, kernels⟩ := first
    exact ⟨decision.symm, same.step kernels.symm (settled.reveals_trap owns frame address)
      (twinId ▸ twin.reveals_trap twinOwns frame address)⟩
  · exact same.access (Machine.load · va length)
      (Machine.load_hide (visible cpu) va length) (Machine.load_hide (twinVisible cpu) va length)
      (settled.reveals_load owns cpu va length) (twinId ▸ twin.reveals_load twinOwns cpu va length)
  · exact same.access (Machine.store · va data)
      (Machine.store_hide (visible cpu) va data) (Machine.store_hide (twinVisible cpu) va data)
      (settled.reveals_store owns cpu va data) (twinId ▸ twin.reveals_store twinOwns cpu va data)

/-- What a stranger has written to its own stack makes no difference to an environment. -/
theorem nonInterfering_strangers :
    let start : List KernelEvent := [.create ⟨0, []⟩, .create ⟨0, []⟩, .reschedule]
    let kernel := after { frames := 8 } start
    let other := after { frames := 8 } (start ++ [.write ⟨0⟩ (stackTop - pageSize) [1]])
    kernel.memory.byteAt ⟨0⟩ (stackTop - pageSize) ≠
        other.memory.byteAt ⟨0⟩ (stackTop - pageSize) ∧
      kernel.Settled ∧ other.Settled ∧ kernel.currentId = some ⟨4097⟩ ∧
      SameTo ⟨4097⟩ kernel other ∧ NonInterfering ⟨4097⟩ kernel other := by
  intro start kernel other
  have settled : kernel.Settled := settled_after { frames := 8 } start
  have twin : other.Settled := settled_after { frames := 8 } _
  have running : kernel.currentId = some ⟨4097⟩ := by decide +kernel
  have different : kernel.memory.byteAt ⟨0⟩ (stackTop - pageSize) ≠
      other.memory.byteAt ⟨0⟩ (stackTop - pageSize) := by decide +kernel
  have entry : kernel.memory.entryAt? ⟨0⟩ (stackTop - pageSize) = some ⟨1, .readWrite⟩ := by
    decide +kernel
  have taken : kernel.envs.free = (List.finRange slotCount).drop 2 := by decide +kernel
  have first : (kernel.envAt (slotAt 0)).id = ⟨4096⟩ ∧ (kernel.envAt (slotAt 0)).parent = ⟨0⟩ := by
    decide +kernel
  have elsewhere : ((kernel.envAt (slotAt 1)).space.bind kernel.memory.table?).all
      fun table => table.entries.values.all (·.frame != 1) := by decide +kernel
  have written : other = { kernel with
      memory := (kernel.memory.copyOut ⟨0⟩ (stackTop - pageSize) [1]).2 } := by
    simp only [other, after, List.foldl_append]
    rfl
  -- From here on the two kernels are compared by what was found out, and not run again.
  clear_value kernel other
  -- Of the two environments the first is no child of the second.
  have single (slot : Slot) (live : (kernel.envAt slot).isLive = true)
      (family : (kernel.envAt slot).id = ⟨4097⟩ ∨ (kernel.envAt slot).parent = ⟨4097⟩) :
      slot = slotAt 1 := by
    have early := settled.val_lt_of_isLive taken live
    by_contra other
    have zero : slot = slotAt 0 := Fin.ext (by
      have different : slot.val ≠ 1 := fun one => other (Fin.ext one)
      show slot.val = 0
      omega)
    rw [zero, first.1, first.2] at family
    simp at family
  -- The frame is mapped in no space that the environment or a child of it has.
  have hidden : 1 ∉ kernel.seen ⟨4097⟩ := not_mem_seen single elsewhere
  have same : SameTo ⟨4097⟩ kernel other := by
    rw [written]
    refine sameTo_copyOut fun offset inside found there => ?_
    obtain rfl : offset = 0 := by simpa using inside
    have here : found = ⟨1, .readWrite⟩ := by
      simpa [entry] using there.symm
    rw [here]
    exact hidden
  exact ⟨different, settled, twin, running, same,
    nonInterfering_of_sameTo settled twin running same⟩

end Kernel

end Exokernel
