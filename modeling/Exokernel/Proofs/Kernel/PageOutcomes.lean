import Exokernel.Proofs.Kernel.PageAnswers

/-! What a request for a page has done once its caller goes on: one mapping changed, or nothing. -/

namespace Exokernel

/-- Two changes of one slot in a row are one change. -/
theorem EnvTable.modify_modify (table : EnvTable) (slot : Slot) (first second : Env → Env) :
    (table.modify slot first).modify slot second = table.modify slot (second ∘ first) := by
  -- What is in the slot is read back, and the first value is overwritten.
  simp only [modify, get_put_same, Function.comp]
  simp [put]

namespace Kernel

variable {kernel next : Kernel} {caller slot : Slot} {request : PageRequest}
  {event : KernelEvent} {frame : TrapFrame} {call : Syscall} {words : Arguments} {error : SysError}

/-- A caller that goes on with an answer to a call that has changed memory, and nothing else. -/
def answeredTo (kernel : Kernel) (caller : Slot) (frame : TrapFrame) (value : Word)
    (memory : Memory) : Dispatch × Kernel :=
  -- The caller is counted as dispatched once more, and its answer is in its frame.
  (.resume (kernel.envAt caller).id (frame.withResult value),
    { kernel.modifyEnv caller fun env =>
        { env with frame := frame.withResult value, runs := env.runs + 1 } with memory })

/-- A call that changes memory alone ends with its answer. -/
theorem Settled.trap_of_memory (settled : kernel.Settled)
    (asks : kernel.Asks event caller frame call words) {value : Word} {memory : Memory}
    (performed : (kernel.saved caller frame).perform call words =
      (.stay value, { kernel.saved caller frame with memory }))
    (active : memory.active = kernel.memory.active) (address : Address) :
    kernel.trap frame address = kernel.answeredTo caller frame value memory := by
  obtain ⟨-, owns, ready⟩ := settled.saved asks.user asks.owns
  obtain ⟨-, last, used⟩ := settled.running caller asks.owns
  have registers := kernel.envAt_saved caller frame caller
  rw [if_pos rfl] at registers
  -- Registers are saved, the answer is put into one of them, and the caller runs again.
  have envs : (((kernel.saved caller frame).envs.modify caller (·.withResult value)).modify caller
      fun env => { env with runs := env.runs + 1 }) =
        kernel.envs.modify caller fun env =>
          { env with frame := frame.withResult value, runs := env.runs + 1 } := by
    rw [EnvTable.modify_modify]
    exact kernel.envs.modify_modify caller _ _
  have space : (({ kernel.saved caller frame with memory } : Kernel).modifyEnv caller
      (·.withResult value) |>.envAt caller).space = memory.active := by
    rw [envAt_modifyEnv, if_pos rfl, active, used]
    show ((kernel.saved caller frame).envAt caller).space = _
    rw [registers]
  generalize moved : ({ kernel.saved caller frame with memory } : Kernel) = acted at *
  rw [trap_request asks.user asks.owns asks.request address performed,
    goOn_withResult (by rw [← moved]; exact owns) (by rw [← moved]; exact ready),
    withResult_of_current (by rw [← moved]; exact owns), dispatched, space, ← moved, answeredTo]
  refine Prod.ext ?_ ?_
  · exact congrArg (fun env => Dispatch.resume env.id (env.frame.withResult value)) registers
  · simp only [modifyEnv, Memory.activate, envs, asks.owns, last]
    rfl

/-- What a request puts at its page: a fresh frame, the frame of another page, or nothing. -/
def Puts (kernel : Kernel) (caller : Slot) (memory : Memory) (content : Option PageEntry) :
    PageRequest → Prop
  | .alloc request =>
    -- The frame was free, is all zeros, and is mapped nowhere else.
    ∃ frame ∈ kernel.memory.pool.free, content = some { frame, flags := request.flags } ∧
      memory.pool.page frame = Page.zero ∧ memory.pool.refs frame = 1
  | .map request =>
    ∃ slot entry, kernel.owned? caller request.source = some slot ∧
      kernel.entryIn slot request.sourceVa = some entry ∧
      content = some { frame := entry.frame, flags := request.flags }
  | .unmap _ => content = none

/-- A request has changed one page in the space of its target, and nothing else of memory. -/
structure Fulfils (kernel : Kernel) (caller : Slot) (request : PageRequest) (memory : Memory)
    (slot : Slot) (space : SpaceHandle) (content : Option PageEntry) : Prop where
  /-- The target is the caller or one of its children. -/
  named : kernel.owned? caller request.target = some slot
  /-- It has the space. -/
  held : (kernel.envAt slot).space = some space
  /-- The page has what the request puts there. -/
  puts : kernel.Puts caller memory content request
  /-- All other mappings stay, and so do all references but those of the two frames. -/
  remaps : kernel.memory.Remaps memory space request.va content

/-- A request that fails has cost nothing. -/
theorem Consistent.changePage_error (consistent : kernel.Consistent)
    (failed : (kernel.changePage request).1 = .error error) :
    kernel.Unchanged (kernel.changePage request).2 := by
  -- Of each kind it has been shown already.
  cases request with
  | alloc request => exact consistent.unchanged_allocPage failed
  | map request => exact unchanged_mapPage failed
  | unmap request => exact unchanged_unmapPage failed

/-- A request has been carried out: memory has changed as it asked for, and nothing else has. -/
def CarriesOut (kernel : Kernel) (caller : Slot) (request : PageRequest) (next : Kernel) : Prop :=
  -- What is put there is as the request says, seen from the kernel before it.
  ∃ memory slot space content, next = { kernel with memory } ∧
    memory.active = kernel.memory.active ∧
    kernel.Fulfils caller request memory slot space content

namespace Consistent

variable (consistent : kernel.Consistent) (owns : kernel.current = some caller)
include consistent owns

/-- A request for a fresh page that succeeds does what it says. -/
theorem carriesOut_allocPage {request : AllocRequest}
    (done : (kernel.allocPage request).1 = .ok ()) :
    kernel.CarriesOut caller (.alloc request) (kernel.allocPage request).2 := by
  simp only [allocPage] at done ⊢
  split at done
  · simp at done
  · rename_i space page flags resolved
    obtain ⟨slot, found, held, placed, same, allowed⟩ := resolveAlloc_ok resolved
    -- Of the plan there is left to show that the frame is new, zeroed and held once.
    obtain ⟨frame, free, zero, single, remaps⟩ :=
      consistent.memory.remaps_mapFresh (Prod.ext done rfl)
    rw [PageFlags.or_present allowed, placed] at remaps
    rw [placed] at zero single ⊢
    exact ⟨_, slot, space, _, rfl,
      (kernel.memory.sameOutside_mapFresh space request.va flags).active_eq,
      (findOwned_eq_ok owns).mp found, held, ⟨frame, free, by rw [same], zero, single⟩, remaps⟩

/-- A request to pass a page on that succeeds does what it says. -/
theorem carriesOut_mapPage {request : MapRequest} (done : (kernel.mapPage request).1 = .ok ()) :
    kernel.CarriesOut caller (.map request) (kernel.mapPage request).2 := by
  simp only [mapPage] at done ⊢
  split at done
  · simp at done
  · rename_i planned resolved
    obtain ⟨source, slot, sourceSpace, flags, sourceFound, found, sourceHeld, held, placed, same,
      offers⟩ := resolveMap_ok resolved
    have after := (consistent.applyPlanned (Memory.mem_leaves offers.mapped)).memory
    have remaps := consistent.memory.remaps_map after
      (PlannedMapping.apply_ok (Prod.ext done rfl))
    rw [PageFlags.or_present offers.allowed, placed] at remaps
    -- The frame that is mapped is the one that the source maps.
    have sourceEntry : kernel.entryIn source request.sourceVa =
        some { frame := planned.frame, flags } := by
      rw [entryIn, sourceHeld]
      exact offers.mapped
    have outside := kernel.memory.sameOutside_map planned.space planned.va planned.frame
      planned.flags
    exact ⟨_, slot, planned.space, _, rfl, outside.active_eq, (findOwned_eq_ok owns).mp found,
      held, ⟨source, _, (findOwned_eq_ok owns).mp sourceFound, sourceEntry, by rw [same]⟩, remaps⟩

/-- A request to remove a mapping that succeeds does what it says. -/
theorem carriesOut_unmapPage {request : UnmapRequest}
    (done : (kernel.unmapPage request).1 = .ok ()) :
    kernel.CarriesOut caller (.unmap request) (kernel.unmapPage request).2 := by
  simp only [unmapPage] at done ⊢
  split at done
  · simp at done
  · rename_i space page resolved
    obtain ⟨slot, found, held, placed⟩ := resolveUnmap_ok resolved
    -- The target is alive, so that it has a space, and the space is known.
    obtain ⟨owned, same, known⟩ :=
      consistent.owns slot (consistent.isLive_of_findOwned owns found)
    obtain rfl : space = owned := Option.some.inj (held.symm.trans same)
    rw [placed]
    exact ⟨_, slot, space, none, rfl,
      (kernel.memory.sameOutside_unmap space request.va).active_eq,
      (findOwned_eq_ok owns).mp found, held, rfl, consistent.memory.remaps_unmap known request.va⟩

/-- A request that succeeds does what it says. -/
theorem carriesOut_changePage (done : (kernel.changePage request).1 = .ok ()) :
    kernel.CarriesOut caller request (kernel.changePage request).2 := by
  -- Of each kind it has been shown already.
  cases request with
  | alloc request => exact consistent.carriesOut_allocPage owns done
  | map request => exact consistent.carriesOut_mapPage owns done
  | unmap request => exact consistent.carriesOut_unmapPage owns done

end Consistent

section Profile

variable (same : next.profile = kernel.profile) (memory_eq : next.memory = kernel.memory)
include same memory_eq

/-- Entries are the same if memory and the spaces of all slots are. -/
theorem entryIn_of_profile : next.entryIn slot = kernel.entryIn slot := by
  -- An entry is that of the slot's space.
  funext va
  simp only [entryIn, memory_eq, space_of_profile same]

/-- Registers and counts of runs have no part in the answer to a request. -/
theorem pageAnswer_of_profile :
    next.pageAnswer caller request = kernel.pageAnswer caller request := by
  have named : next.owned? caller = kernel.owned? caller := owned?_of_profile same
  -- The answer looks at names, entries and memory only.
  have entitled : next.mayChange caller request = kernel.mayChange caller request := by
    simp only [mayChange, named]
  have order : next.isInOrder caller request = kernel.isInOrder caller request := by
    simp only [isInOrder, named, mayPass, entryIn_of_profile same memory_eq]
  have needed : next.framesNeeded caller request = kernel.framesNeeded caller request := by
    cases request <;> simp only [framesNeeded, named, tableIn, memory_eq, space_of_profile same] <;>
      rfl
  simp only [pageAnswer, entitled, order, needed, memory_eq]

/-- A request is fulfilled just as well seen from another kernel with the same profile. -/
theorem Fulfils.of_profile {memory : Memory} {space : SpaceHandle} {content : Option PageEntry}
    (fulfils : next.Fulfils caller request memory slot space content) :
    kernel.Fulfils caller request memory slot space content where
  named := owned?_of_profile same ▸ fulfils.named
  held := (space_of_profile same slot).symm.trans fulfils.held
  puts := by
    -- Whatever is asked for, owners and entries are read from profiles.
    have puts := fulfils.puts
    cases request <;>
      simpa only [Puts, memory_eq, owned?_of_profile same, entryIn_of_profile same memory_eq]
        using puts
  remaps := memory_eq ▸ fulfils.remaps

end Profile

/-- What a request for a page has done once its caller goes on. -/
structure PageOutcome (kernel : Kernel) (caller : Slot) (frame : TrapFrame)
    (request : PageRequest) (outcome : Dispatch × Kernel) : Prop where
  /-- The caller goes on with the answer, and nothing but memory has changed besides. -/
  answered : outcome = kernel.answeredTo caller frame
    (SysError.encodeResult ((kernel.pageAnswer caller request).map fun () => 0)) outcome.2.memory
  /-- The caller is told of success exactly if nothing speaks against the request. -/
  succeeds : outcome.1 = .resume (kernel.envAt caller).id (frame.withResult 0) ↔
    kernel.mayChange caller request = true ∧ kernel.isInOrder caller request = true ∧
      kernel.memory.pool.canSupply (kernel.framesNeeded caller request) = true
  /-- A request that fails has cost nothing. -/
  refused : ∀ error, kernel.pageAnswer caller request = .error error →
    kernel.memory.Intact outcome.2.memory
  /-- A request that succeeds has changed one page. -/
  fulfilled : kernel.pageAnswer caller request = .ok () → ∃ slot space content,
    kernel.Fulfils caller request outcome.2.memory slot space content

/-- The caller finds a zero exactly if its request has succeeded. -/
theorem encodeResult_eq_zero (answer : Except SysError Unit) :
    SysError.encodeResult (answer.map fun () => 0) = 0 ↔ answer = .ok () := by
  -- No error is encoded as zero.
  cases answer with
  | ok value => simp [Except.map, SysError.encodeResult]
  | error error => cases error <;> simp [Except.map, SysError.encodeResult] <;> decide

/-- In every settled state a request for a page is answered as decided, and does what it says. -/
theorem Settled.pageOutcome (settled : kernel.Settled)
    (asks : kernel.Asks event caller frame call words)
    (reads : PageRequest.ofCall? call words = some request) (address : Address) :
    kernel.PageOutcome caller frame request (kernel.trap frame address) := by
  obtain ⟨consistent, owns, -⟩ := settled.saved asks.user asks.owns
  have same := kernel.profile_saved caller frame
  have decided := consistent.changePage_fst owns request
  rw [pageAnswer_of_profile same rfl] at decided
  have performed : (kernel.saved caller frame).perform call words = _ := perform_page reads
  -- Whether it succeeds or not, the request has changed at most memory.
  obtain ⟨memory, changed, active, cases_⟩ : ∃ memory,
      ((kernel.saved caller frame).changePage request).2 =
        { kernel.saved caller frame with memory } ∧ memory.active = kernel.memory.active ∧
      (∀ error, kernel.pageAnswer caller request = .error error → kernel.memory.Intact memory) ∧
      (kernel.pageAnswer caller request = .ok () → ∃ slot space content,
        kernel.Fulfils caller request memory slot space content) := by
    cases answer : kernel.pageAnswer caller request with
    | error error =>
      obtain ⟨memory, changed, intact⟩ := consistent.changePage_error (decided.trans answer)
      exact ⟨memory, changed, intact.active_eq, fun _ _ => intact, by simp⟩
    | ok value =>
      obtain ⟨memory, slot, space, content, changed, active, fulfils⟩ :=
        consistent.carriesOut_changePage owns (decided.trans answer)
      exact ⟨memory, changed, active, by simp,
        fun _ => ⟨slot, space, content, fulfils.of_profile same rfl⟩⟩
  rw [answerUnit, answer, decided, changed] at performed
  have ends := settled.trap_of_memory asks performed active address
  refine ⟨by rw [ends]; rfl, ?_, by rw [ends]; exact cases_.1, by rw [ends]; exact cases_.2⟩
  rw [ends, ← pageAnswer_eq_ok, ← encodeResult_eq_zero]
  constructor
  · intro resumed
    have frames := (Dispatch.resume.inj resumed).2
    exact congrArg (fun frame => frame.context.regs.eax) frames
  · intro zero
    rw [answeredTo, zero]

/--
A request for a page succeeds exactly if the caller may change all environments that it names, its
addresses, its permission and its source page are in order, and there are frames enough. Then one
page of one space has changed, and otherwise nothing.
-/
theorem pageOutcome_after (config : Config) (events : List KernelEvent) (caller : Slot)
    (frame : TrapFrame) (call : Syscall) (words : Arguments) (request : PageRequest)
    (address : Address) (reads : PageRequest.ofCall? call words = some request)
    (asks : (after config events).Asks (.trap frame address) caller frame call words) :
    (after config events).PageOutcome caller frame request
      ((after config events).trap frame address) :=
  (settled_after config events).pageOutcome asks reads address

/-- An environment maps its stack page over itself, so that it can no longer write to it. -/
theorem pageOutcome_overItself :
    let kernel := after { frames := 16 } [.create ⟨0, []⟩, .create ⟨0, []⟩, .reschedule]
    let words : Arguments := { second := 0xeebfd000, fourth := 0xeebfd000, fifth := 5 }
    let frame := Machine.called .initial .mapPage words
    PageRequest.ofCall? .mapPage words = some (.map (.ofArguments words)) ∧
      kernel.Asks (.trap frame 0) (slotAt 1) frame .mapPage words ∧
      kernel.pageAnswer (slotAt 1) (.map (.ofArguments words)) = .ok () ∧
      kernel.PageOutcome (slotAt 1) frame (.map (.ofArguments words)) (kernel.trap frame 0) := by
  -- The page keeps its frame while its only mapping is replaced by a lesser one.
  intro kernel words frame
  have request := Machine.requests_called .initial .mapPage words
  have asks : kernel.Asks (.trap frame 0) (slotAt 1) frame .mapPage words :=
    ⟨⟨0, rfl⟩, by decide +kernel, by decide +kernel, request⟩
  exact ⟨rfl, asks, by decide +kernel,
    pageOutcome_after _ _ (slotAt 1) frame .mapPage words _ 0 rfl asks⟩

end Kernel

end Exokernel
