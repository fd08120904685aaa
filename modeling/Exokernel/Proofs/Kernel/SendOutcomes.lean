import Exokernel.Proofs.Kernel.SendAnswers
import Exokernel.Proofs.Memory.References

/-! What a send has done once its sender goes on: to the sender, to the receiver and to memory. -/

namespace Exokernel

namespace PlannedMapping

variable {memory next : Memory} {planned : PlannedMapping} {table : PageTable} {size : Nat}
  {frame : FrameNumber}

/-- A replaced mapping is one leaf more, in exchange for the one that was there. -/
theorem leaves_replace (found : memory.table? planned.space = some table)
    (placed : planned.replace memory = (.ok (), next)) :
    next.leaves + memory.frameAt planned.space planned.va = planned.frame ::ₘ memory.leaves := by
  -- The page is empty in between, so that mapping it adds a leaf and takes none away.
  rw [replace_eq found] at placed
  have gone : (memory.unmap planned.space planned.va).2.entryAt? planned.space planned.va =
      none := by
    rw [Memory.entryAt?_unmap found, if_pos rfl]
  have added := Memory.leaves_map (apply_ok placed)
  rw [Memory.frameAt_of_none gone, add_zero] at added
  rw [added, Multiset.cons_add, Memory.leaves_unmap]

/-- A page table that a replaced mapping needs takes none of the frames that were in use. -/
theorem count_ownFrames_replace (sound : memory.Sound size 0)
    (found : memory.table? planned.space = some table)
    (placed : planned.replace memory = (.ok (), next)) (used : 0 < memory.pool.refs frame) :
    next.ownFrames.count frame = memory.ownFrames.count frame := by
  rw [replace_eq found] at placed
  have mapped := apply_ok placed
  cases before : memory.entryAt? planned.space planned.va with
  | some entry =>
    -- The frame that loses a reference may become free, but the page table is there already.
    have present := sound.tableIndex_isSome found before
    obtain ⟨cleared, same, tables⟩ := Memory.table?_unmap found planned.va
    rw [← tables] at present
    rw [Memory.ownFrames_map_of_table same present mapped, Memory.ownFrames_unmap]
  | none =>
    -- Nothing has been removed, so a frame that is taken was free before.
    rcases Memory.ownFrames_map mapped with same | ⟨taken, free, more⟩
    · rw [same, Memory.ownFrames_unmap]
    · rw [Memory.pool_unmap_of_none before] at free
      have other : frame ≠ taken := by
        rintro rfl
        exact sound.not_mem_free used free
      rw [more, Multiset.count_cons_of_ne other, Memory.ownFrames_unmap]

/-- A replaced mapping is a reference more to its frame, and one less to the frame before it. -/
theorem refs_replace (sound : memory.Sound size 0) (after : next.Sound size 0)
    (found : memory.table? planned.space = some table)
    (placed : planned.replace memory = (.ok (), next)) (used : 0 < memory.pool.refs frame) :
    next.pool.refs frame + (memory.frameAt planned.space planned.va).count frame =
      memory.pool.refs frame + if frame = planned.frame then 1 else 0 := by
  -- References are those of pages and those of page tables, which stay.
  have own := count_ownFrames_replace sound found placed used
  have leaves := congrArg (Multiset.count frame) (leaves_replace found placed)
  rw [Multiset.count_add, Multiset.count_cons] at leaves
  rw [sound.accounted.balanced.refs_eq, after.accounted.balanced.refs_eq, Multiset.count_add,
    Multiset.count_add, own]
  omega

end PlannedMapping

namespace Kernel

variable {kernel next acted : Kernel} {sender receiver slot : Slot} {request : SendRequest}
  {event : KernelEvent} {frame : TrapFrame} {words : Arguments} {address va landing : Address}
  {passed : FrameNumber} {flags : PageFlags}

/-- A frame was mapped at a page of a receiver, and no other mapping has changed. -/
structure Passes (kernel next : Kernel) (receiver : Slot) (landing : Address)
    (passed : FrameNumber) (flags : PageFlags) : Prop where
  /-- The receiver has the frame at the page, with the permission; all else is as it was. -/
  entries : ∀ slot va, next.entryIn slot va =
    if slot = receiver ∧ pageNumber va = pageNumber landing then some { frame := passed, flags }
    else kernel.entryIn slot va
  /-- The frame has a reference more, and the frame that was at the page has one less. -/
  refs : ∀ frame, 0 < kernel.memory.pool.refs frame →
    next.memory.pool.refs frame +
        (if (kernel.entryIn receiver landing).map PageEntry.frame = some frame then 1 else 0) =
      kernel.memory.pool.refs frame + if frame = passed then 1 else 0

/-- What a send has done, as its answer says. -/
structure SendOutcome (kernel : Kernel) (sender : Slot) (frame : TrapFrame) (request : SendRequest)
    (outcome : Dispatch × Kernel) : Prop where
  /-- The sender goes on with the answer in its result register. -/
  resumes : outcome.1 = .resume (kernel.envAt sender).id
    (frame.withResult (SysError.encodeResult (kernel.sendAnswer sender request)))
  /-- The receiver of a message can run again and has it, with the permission of its page. -/
  delivered : ∀ receiver answer, kernel.addressee? sender request.target = some receiver →
    kernel.sendAnswer sender request = .ok answer →
    outcome.2.envAt receiver = (kernel.envAt receiver).delivered
      { sender := (kernel.envAt sender).id
        value := request.value
        permission := if answer = 1 then request.flags else .empty }
  /-- A send that is refused concerns nobody but the sender. -/
  refused : ∀ error, kernel.sendAnswer sender request = .error error →
    ∀ slot ≠ sender, outcome.2.envAt slot = kernel.envAt slot
  /-- Without a page that was passed on, no mapping changes. -/
  unplaced : kernel.sendAnswer sender request ≠ .ok 1 →
    ∀ slot va, outcome.2.entryIn slot va = kernel.entryIn slot va
  /-- A page that was passed on is mapped where the receiver takes pages, and nowhere else. -/
  placed : kernel.sendAnswer sender request = .ok 1 → ∃ receiver landing entry,
    receiver ≠ sender ∧ kernel.addressee? sender request.target = some receiver ∧
    kernel.landing? receiver request = some landing ∧
    kernel.entryIn sender request.sourceVa = some entry ∧
    kernel.Passes outcome.2 receiver landing entry.frame request.flags

/-- An environment maps the same if it has the same space, with the same page table. -/
theorem entryIn_congr (space : (next.envAt slot).space = (kernel.envAt slot).space)
    (tables : ∀ handle, next.memory.table? handle = kernel.memory.table? handle) (va : Address) :
    next.entryIn slot va = kernel.entryIn slot va := by
  -- An entry is looked up through the slot's space.
  simp only [entryIn, space, Memory.entryAt?, tables]

/-- A send gives nobody another space. -/
theorem space_trySend (kernel : Kernel) (request : SendRequest) (slot : Slot) :
    ((kernel.trySend request).2.envAt slot).space = (kernel.envAt slot).space := by
  -- Accepting a message changes no space, and nothing else concerns environments.
  simp only [trySend]
  split
  · rfl
  · split
    · rfl
    · exact view_modifyEnv Env.space _ _ slot rfl

/-- The answer to a send that is accepted says whether there is a page. -/
theorem page_eq_none_iff {delivery : Delivery}
    (paged : kernel.resolvePage sender receiver request = .ok delivery.page) :
    delivery.page = none ↔ (if delivery.permission.isEmpty then (0 : Word) else 1) ≠ 1 := by
  -- A page has a permission that user code may ask for, and so not the empty one.
  unfold Delivery.permission
  cases carried : delivery.page with
  | none => decide
  | some planned =>
    rw [carried] at paged
    obtain ⟨_, _, -, -, -, -, offers⟩ := resolvePage_some paged
    simp [PageFlags.isEmpty_eq_false offers.allowed]

/-- A send that passes no page on leaves all memory as it was. -/
theorem Consistent.intact_trySend (consistent : kernel.Consistent)
    (owns : kernel.current = some sender) (alone : (kernel.trySend request).1 ≠ .ok 1) :
    kernel.memory.Intact (kernel.trySend request).2.memory := by
  cases result : (kernel.trySend request).1 with
  | error error =>
    obtain ⟨memory, tried, intact⟩ := consistent.trySend_error owns result
    rw [tried]
    exact intact
  | ok answer =>
    obtain ⟨delivery, memory, resolved, placed, answered, tried⟩ := trySend_ok result
    obtain ⟨-, -, -, -, paged⟩ := resolveSend_ok owns resolved
    rw [result, answered] at alone
    -- An answer other than one says that no page went along, so that none was placed.
    have none_ := (page_eq_none_iff paged).mpr fun same => alone (congrArg Except.ok same)
    simp only [Delivery.placePage, none_, Prod.mk.injEq, true_and] at placed
    rw [tried, ← placed]
    exact .refl _

/-- A planned mapping that is carried out for a receiver passes its frame on. -/
theorem Consistent.passes_replace (consistent : kernel.Consistent) {memory : Memory}
    {planned : PlannedMapping} (takes : (kernel.envAt receiver).space = some planned.space)
    (allowed : planned.flags.isUserPermission = true)
    (placed : planned.replace kernel.memory = (.ok (), memory))
    (after : memory.Sound (FramePool.listed kernel.config.frames) 0)
    (memory_eq : next.memory = memory)
    (spaces : ∀ slot, (next.envAt slot).space = (kernel.envAt slot).space) :
    kernel.Passes next receiver planned.va planned.frame planned.flags := by
  obtain ⟨space, same, exists_⟩ := consistent.owns receiver (consistent.isLive_of_space takes)
  obtain rfl : planned.space = space := Option.some.inj (takes.symm.trans same)
  obtain ⟨table, found⟩ := Option.isSome_iff_exists.mp exists_
  have here (va : Address) :
      kernel.entryIn receiver va = kernel.memory.entryAt? planned.space va := by
    rw [entryIn, takes, Option.bind_some]
  refine ⟨fun slot va => ?_, fun frame used => ?_⟩
  · -- The receiver's space is the one that is changed.
    by_cases own : slot = receiver
    · subst own
      rw [here, entryIn, spaces, takes, Option.bind_some, memory_eq,
        planned.replace_ok found placed va, PageFlags.or_present allowed]
      simp only [true_and]
    · -- Another environment has another space.
      rw [if_neg fun both => own both.1, entryIn, entryIn, spaces]
      cases held : (kernel.envAt slot).space with
      | none => rfl
      | some other =>
        have apart : other ≠ planned.space := by
          rintro rfl
          exact own (consistent.distinct slot receiver _ held takes)
        have outside := planned.sameOutside_replace kernel.memory
        rw [placed] at outside
        simp only [Option.bind_some, memory_eq, Memory.entryAt?, outside.others other apart]
  · have counted := PlannedMapping.refs_replace consistent.memory after found placed used
    rw [here, memory_eq, ← counted, Memory.frameAt]
    cases kernel.memory.entryAt? planned.space planned.va with
    | none => rfl
    | some old => simp [Multiset.count_singleton, eq_comm]

/-- A send that passes a page on maps it at the receiver. -/
theorem Consistent.passes_trySend (consistent : kernel.Consistent)
    (owns : kernel.current = some sender) (ready : (kernel.envAt sender).isRunnable = true)
    (sent : (kernel.trySend request).1 = .ok 1) : ∃ receiver landing entry,
      receiver ≠ sender ∧ kernel.addressee? sender request.target = some receiver ∧
      kernel.landing? receiver request = some landing ∧
      kernel.entryIn sender request.sourceVa = some entry ∧
      kernel.Passes (kernel.trySend request).2 receiver landing entry.frame request.flags := by
  obtain ⟨delivery, memory, resolved, placed, answered, tried⟩ := trySend_ok sent
  obtain ⟨reached, waits, -, -, paged⟩ := resolveSend_ok owns resolved
  have after := consistent.placePage owns ready resolved
  cases carried : delivery.page with
  | none => exact absurd answered.symm ((page_eq_none_iff paged).mp carried)
  | some planned =>
    rw [carried] at paged
    simp only [Delivery.placePage, carried] at placed after
    rw [placed] at after
    obtain ⟨source, held, -, gives, takes, same, offers⟩ := resolvePage_some paged
    -- The receiver and the place are those that the request leads to.
    have named : kernel.addressee? sender request.target = some delivery.receiver := by
      rw [kernel.find_eq] at reached
      split at reached
      · rename_i found
        rw [found, ← Except.ok.inj reached]
      · simp at reached
    have lands : kernel.landing? delivery.receiver request = some planned.va := by
      cases wanted : kernel.landing? delivery.receiver request with
      | none => simp [resolvePage_of_none wanted] at paged
      | some landing =>
        obtain ⟨-, -, here, -⟩ := resolvePage_some paged
        rw [← (landing?_eq_some wanted).2, here]
    refine ⟨delivery.receiver, planned.va, _, (waiting_ne ready waits).2, named, lands,
      Option.bind_eq_some_iff.mpr ⟨source, gives, offers.mapped⟩, ?_⟩
    rw [← same]
    exact consistent.passes_replace takes offers.allowed placed after.memory (by rw [tried]; rfl)
      (kernel.space_trySend request)

/-- Once the sender goes on, everybody maps what was mapped when the page had been placed. -/
theorem Settled.entryIn_trap_trySend (settled : kernel.Settled)
    (asks : kernel.Asks event sender frame .trySend words) {result : Except SysError Word}
    (tried : (kernel.saved sender frame).trySend (.ofArguments words) = (result, acted))
    (address : Address) (slot : Slot) : (acted.envAt slot).space = (kernel.envAt slot).space ∧
      ∀ va, (kernel.trap frame address).2.entryIn slot va = acted.entryIn slot va := by
  obtain ⟨-, slots, active, memory_eq⟩ := settled.trap_trySend asks tried address
  have kept (slot : Slot) : (acted.envAt slot).space = (kernel.envAt slot).space := by
    have sent := (kernel.saved sender frame).space_trySend (.ofArguments words) slot
    rw [tried] at sent
    rw [sent, space_of_profile (kernel.profile_saved sender frame)]
  refine ⟨kept slot, fun va => entryIn_congr ?_ (fun _ => by rw [memory_eq]; rfl) va⟩
  -- The end of the trap touches the sender alone, and not its space.
  rw [slots, kept]
  split
  · rename_i here
    rw [here]
  · exact kept slot

/-- In every settled state a send does what its answer says. -/
theorem Settled.sendOutcome (settled : kernel.Settled)
    (asks : kernel.Asks event sender frame .trySend words) (address : Address) :
    kernel.SendOutcome sender frame (.ofArguments words) (kernel.trap frame address) := by
  obtain ⟨consistent, owns, ready⟩ := settled.saved asks.user asks.owns
  have decided := settled.sendResult_eq asks
  obtain ⟨result, acted, tried⟩ : ∃ result acted,
      (kernel.saved sender frame).trySend (.ofArguments words) = (result, acted) := ⟨_, _, rfl⟩
  obtain ⟨resumes, slots, active, memory_eq⟩ := settled.trap_trySend asks tried address
  have result_eq : result = kernel.sendAnswer sender (.ofArguments words) := by
    rw [← decided, sendResult, tried]
  -- The sender's registers have no part in what is sent to whom.
  have same := kernel.profile_saved sender frame
  have entries (slot : Slot) (va : Address) :
      (kernel.saved sender frame).entryIn slot va = kernel.entryIn slot va :=
    entryIn_congr (space_of_profile same slot) (fun _ => rfl) va
  have after := settled.entryIn_trap_trySend asks tried address
  refine
    { resumes := by rw [resumes, result_eq]
      delivered := fun receiver answer named succeeded => ?_
      refused := fun error failed slot different => ?_
      unplaced := fun alone slot va => ?_
      placed := fun sent => ?_ }
  · -- Who is addressed and waits gets the message.
    have found := kernel.find_eq sender ⟨words.first⟩
    change kernel.addressee? sender ⟨words.first⟩ = some receiver at named
    rw [named] at found
    exact (settled.delivered asks (decided.trans succeeded) found address).2
  · -- A send that fails may have tried for a frame, and no more.
    obtain ⟨memory, refusal, -⟩ := consistent.trySend_error owns (decided.trans failed)
    rw [tried, Prod.mk.injEq] at refusal
    rw [slots, if_neg different, refusal.2]
    show (kernel.saved sender frame).envAt slot = kernel.envAt slot
    rw [envAt_saved, if_neg different]
  · -- Without a page that is passed on, no mapping changes.
    rw [← decided] at alone
    have intact := consistent.intact_trySend owns alone
    rw [tried] at intact
    rw [(after slot).2]
    exact entryIn_congr (after slot).1 intact.tables va
  · -- A page that is passed on is mapped at the landing page, and counted there.
    obtain ⟨receiver, landing, entry, apart, named, lands, given, passes⟩ :=
      consistent.passes_trySend owns ready (decided.trans sent)
    rw [addressee?_of_profile same] at named
    rw [landing?_of_profile same] at lands
    rw [entries] at given
    rw [tried] at passes
    refine ⟨receiver, landing, entry, apart, named, lands, given, fun slot va => ?_,
      fun used inUse => ?_⟩
    · rw [(after slot).2, passes.entries, entries]
    · have counted := passes.refs used inUse
      rw [entries] at counted
      rw [memory_eq]
      exact counted

/--
A send is answered as the two environments and the memory decide, and it does what its answer says:
a message arrives with or without a page, or nothing happens to anybody but the sender.
-/
theorem sendOutcome_after (config : Config) (events : List KernelEvent) (sender : Slot)
    (frame : TrapFrame) (words : Arguments) (address : Address)
    (asks : (after config events).Asks (.trap frame address) sender frame .trySend words) :
    (after config events).SendOutcome sender frame (.ofArguments words)
      ((after config events).trap frame address) :=
  (settled_after config events).sendOutcome asks address

/-- A page is sent to an environment that takes it in place of its own stack page. -/
theorem sendOutcome_stackPage :
    let kernel := after { frames := 16 } [.create ⟨0, []⟩, .create ⟨0, []⟩, .create ⟨0, []⟩,
      .reschedule, .trap (Machine.called .initial .receive { first := 0xeebfd000 }) 0]
    let words : Arguments := { first := 4097, second := 5, third := 0xeebfd000, fourth := 5 }
    let frame := Machine.called .initial .trySend words
    kernel.sendAnswer (slotAt 2) (.ofArguments words) = .ok 1 ∧
      kernel.Asks (.trap frame 0) (slotAt 2) frame .trySend words ∧
      kernel.SendOutcome (slotAt 2) frame (.ofArguments words) (kernel.trap frame 0) := by
  -- The receiver's own page is mapped at the landing place when the message comes.
  intro kernel words frame
  have request := Machine.requests_called .initial .trySend words
  have asks : kernel.Asks (.trap frame 0) (slotAt 2) frame .trySend words :=
    ⟨⟨0, rfl⟩, by decide +kernel, by decide +kernel, request⟩
  exact ⟨by decide +kernel, asks, sendOutcome_after _ _ (slotAt 2) frame words 0 asks⟩

end Kernel

end Exokernel
