import Exokernel.Proofs.Kernel.FaultDelivery
import Exokernel.Proofs.Kernel.Runs
import Exokernel.Proofs.Memory.Private
import Exokernel.Proofs.User.Upcalls

/-! Page faults on the exception stack: the records that they leave there never collide. -/

namespace Exokernel

/-- A request reads memory, or sets registers, or writes to certain addresses. -/
def Request.WritesOnly {η : Type} (range : List Address) : Request η → Prop
  -- What a handler could do beyond that is not allowed, so that its writes are all known.
  | .access (.store va data) => addressRange va data.length = range
  | .access (.load _ _) | .setContext _ => True
  | .syscall _ _ | .rawAccess _ | .context | .envInfo _ | .pageEntry _ | .tableEntry _ | .handler
  | .setHandler _ => False

/-- Every request that a program can get to is an allowed one. -/
inductive UserCode.AsksOnly {η α : Type} (allowed : Request η → Prop) : UserCode η α → Prop where
  | done (value : α) : AsksOnly allowed (done value)
  | exhausted : AsksOnly allowed exhausted
  | ask (request : Request η) (next : request.Answer → UserCode η α) (fine : allowed request)
      (rest : ∀ answer, AsksOnly allowed (next answer)) : AsksOnly allowed (ask request next)

namespace Program

variable {η α β : Type} {allowed : Request η → Prop}

/-- A sequence asks for nothing else if neither of its parts does. -/
theorem asksOnly_bind {program : Program η α} {next : α → Program η β}
    (begins : program.run.AsksOnly allowed) (goesOn : ∀ value, (next value).run.AsksOnly allowed) :
    (program >>= next).run.AsksOnly allowed := by
  rw [ExceptT.run_bind]
  generalize program.run = code at begins
  change (code.bind _).AsksOnly allowed
  -- Whatever the first program asks for, it ends in the second one or in a failure.
  induction begins with
  | done result =>
    cases result with
    | ok value => exact goesOn value
    | error failure => exact .done _
  | exhausted => exact .exhausted
  | ask request rest fine _ ih => exact .ask request _ fine ih

/-- A request that is allowed is all that it asks for itself. -/
theorem asksOnly_ask {request : Request η} (fine : allowed request) :
    (ask request).run.AsksOnly allowed :=
  .ask request _ fine fun _ => .done _

/-- A load asks for nothing but its own access. -/
theorem asksOnly_load {va : Address} {length : Nat} (fine : allowed (.access (.load va length))) :
    (load va length).run.AsksOnly allowed :=
  .ask _ _ fine fun _ => .done _

/-- A store asks for nothing but its own access. -/
theorem asksOnly_store {va : Address} {data : List UInt8}
    (fine : allowed (.access (.store va data))) : (store va data).run.AsksOnly allowed :=
  asksOnly_bind (.ask _ _ fine fun _ => .done _) fun _ => .done _

/-- On the way back from a handler user code writes the return address, and nothing else. -/
theorem writesOnly_returnTo (context : UserContext) :
    (returnTo context : Program η Unit).run.AsksOnly
      (Request.WritesOnly (addressRange (context.esp - 4) (wordBytes context.eip).length)) := by
  -- The word is written, the registers are moved there, the word is read, and they are moved back.
  refine asksOnly_bind (asksOnly_store rfl) fun _ => ?_
  refine asksOnly_bind (asksOnly_ask trivial) fun _ => ?_
  refine asksOnly_bind (asksOnly_load trivial) fun _ => ?_
  exact asksOnly_ask trivial

end Program

namespace Kernel

section Guarded

variable {kernel : Kernel} {owner : Slot} {space : SpaceHandle} {frame : TrapFrame}
  {delivery : FaultDelivery}

/-- The running environment has its exception stack, and nothing on the page below. -/
structure OnGuardedStack (kernel : Kernel) (owner : Slot) (space : SpaceHandle) : Prop where
  /-- The environment owns the processor. -/
  owns : kernel.current = some owner
  /-- The pages are those of its own space. -/
  held : (kernel.envAt owner).space = some space
  /-- The page of the exception stack is mapped. -/
  mapped : (kernel.memory.entryAt? space (exceptionStackTop - pageSize)).isSome = true
  /-- The page below is not. -/
  guarded : kernel.memory.entryAt? space (exceptionStackTop - 2 * pageSize) = none

/-- A fault that can be handled has its record on the exception stack. -/
theorem OnGuardedStack.base_le (stack : kernel.OnGuardedStack owner space)
    (can : kernel.CanHandle owner delivery)
    (placed : delivery.recordAt = recordAddress frame.context.esp) :
    4005556224 ≤ delivery.recordAt.toNat := by
  -- A record that begins lower begins on the page below, where nothing is permitted.
  by_contra low
  have number := toNat_recordAddress frame.context.esp
  rw [← placed] at number
  have found := (can.recorded 0 (by decide)).isSome
  have below : pageNumber (delivery.recordAt + UInt32.ofNat 0) =
      pageNumber (exceptionStackTop - 2 * pageSize) := by
    rw [pageNumber_eq_iff, show UInt32.ofNat 0 = 0 from rfl, UInt32.add_zero,
      show (exceptionStackTop - 2 * pageSize).toNat = 4005552128 from rfl]
    split at number <;> omega
  obtain rfl := Option.some.inj (can.held.symm.trans stack.held)
  rw [Memory.entryAt?_congr below, stack.guarded] at found
  simp at found

end Guarded

/-- A page fault of a run, with the registers with which its environment goes on. -/
structure FaultPoint where
  /-- What has happened to the kernel before. -/
  past : List KernelEvent
  /-- The slot of the environment at fault. -/
  owner : Slot
  /-- Its space. -/
  space : SpaceHandle
  /-- The registers at the fault. -/
  frame : TrapFrame
  /-- The refused address. -/
  address : Address
  /-- The registers with which the environment goes on. -/
  resumed : TrapFrame

namespace FaultPoint

variable {config : Config} {point other outer inner : FaultPoint}

/-- The kernel at the fault. -/
def before (config : Config) (point : FaultPoint) : Kernel :=
  after config point.past

/-- What the kernel decides, and the kernel afterwards. -/
def outcome (config : Config) (point : FaultPoint) : Dispatch × Kernel :=
  (point.before config).trap point.frame point.address

/-- Where the record is: the environment goes on with its stack pointer there. -/
def recordAt (point : FaultPoint) : Address :=
  point.resumed.context.esp

/-- The addresses of the record. -/
def record (point : FaultPoint) : List Address :=
  addressRange point.recordAt FaultRecord.length

/-- The delivery of the fault, as the environment finds it. -/
def delivery (point : FaultPoint) : FaultDelivery :=
  { space := point.space, entry := point.resumed.context.eip, recordAt := point.recordAt }

/-- The addresses of the word below the stack pointer, in which the return address is placed. -/
def returnWord (point : FaultPoint) : List Address :=
  -- Under a stack pointer close to zero the range wraps around, to the top of all addresses.
  addressRange (point.frame.context.esp - 4) (wordBytes point.frame.context.eip).length

/-- A page fault of an environment with a guarded exception stack. -/
structure Raised (config : Config) (point : FaultPoint) : Prop where
  /-- The exception stack is one page, with nothing below it. -/
  stack : (point.before config).OnGuardedStack point.owner point.space
  /-- User code is at fault. -/
  user : point.frame.fromUser = true
  /-- The fault is a page fault. -/
  vector : point.frame.vector = TrapVector.pageFault

/-- A page fault after which its environment goes on. -/
structure Delivered (config : Config) (point : FaultPoint) : Prop extends Raised config point where
  /-- The environment has not come to its end. -/
  resumes : (point.outcome config).1 =
    .resume ((point.before config).envAt point.owner).id point.resumed

/-- A fault on the exception stack changes nothing there from the return address on. -/
structure Confined (config : Config) (point : FaultPoint) : Prop where
  /-- The environment goes on at the entry point that it has registered. -/
  entered : ((point.before config).envAt point.owner).faultEntry = some point.resumed.context.eip
  /-- The record is the one of this fault. -/
  recorded : FaultRecord.decode
    (point.record.map ((point.outcome config).2.memory.byteAt point.space)) =
      { address := point.address, code := point.frame.code, context := point.frame.context }
  /-- The record is on the page of the exception stack. -/
  inside : ∀ va ∈ point.record, pageNumber va = pageNumber (exceptionStackTop - pageSize)
  /-- It ends one word below the stack pointer. -/
  ends : point.recordAt.toNat + FaultRecord.length + 4 = point.frame.context.esp.toNat
  /-- The bytes of the page from this word on are the same as before. -/
  kept : ∀ va, pageNumber va = pageNumber (exceptionStackTop - pageSize) →
    point.frame.context.esp.toNat ≤ va.toNat + 4 →
      (point.outcome config).2.memory.byteAt point.space va =
        (point.before config).memory.byteAt point.space va

/-- Where a record is, as numbers, if the stack pointer was below the top of the exception stack. -/
structure Placed (point : FaultPoint) : Prop where
  /-- The record begins on the exception stack. -/
  base_le : 4005556224 ≤ point.recordAt.toNat
  /-- It ends there. -/
  le_top : point.recordAt.toNat + 52 ≤ 4005560320
  /-- The stack pointer was below the exception stack, or is one word above the record. -/
  esp_eq : point.frame.context.esp.toNat < 4005556224 ∨
    point.frame.context.esp.toNat = point.recordAt.toNat + 56

/-- An environment that goes on after a page fault can handle it, and goes on in its handler. -/
theorem Delivered.delivers (delivered : point.Delivered config) :
    (point.before config).CanHandle point.owner point.delivery ∧
      point.recordAt = recordAddress point.frame.context.esp ∧
      (point.before config).Delivers point.owner point.frame point.address point.delivery
        (point.outcome config) := by
  have settled : (point.before config).Settled := settled_after config point.past
  obtain ⟨delivery, can, placed, delivers⟩ : ∃ delivery : FaultDelivery,
      (point.before config).CanHandle point.owner delivery ∧
        delivery.recordAt = recordAddress point.frame.context.esp ∧
        (point.before config).Delivers point.owner point.frame point.address delivery
          (point.outcome config) := by
    -- Without a delivery the environment would have come to its end.
    by_contra none
    have passed : (point.outcome config).1.resumes _ = false :=
      (settled.removes_fault delivered.user delivered.stack.owns delivered.vector
        fun delivery placed can => none ⟨delivery, can, placed, settled.delivers delivered.user
          delivered.stack.owns delivered.vector can placed⟩).passed
    rw [delivered.resumes] at passed
    simp [Dispatch.resumes] at passed
  -- What was planned is read off the registers with which the environment goes on.
  obtain ⟨-, goesOn⟩ := Dispatch.resume.inj (delivered.resumes.symm.trans delivers.resumes)
  have own : point.space = delivery.space :=
    Option.some.inj (delivered.stack.held.symm.trans can.held)
  have same : point.delivery = delivery := by
    rw [FaultPoint.delivery, recordAt, goesOn, own]
  rw [same]
  exact ⟨can, (congrArg FaultDelivery.recordAt same).trans placed, delivers⟩

/-- A fault so deep in the stack that its record does not fit is the end of its environment. -/
theorem Raised.removes (raised : point.Raised config)
    (above : exceptionStackTop - pageSize ≤ point.frame.context.esp)
    (deep : point.frame.context.esp.toNat <
      (exceptionStackTop - pageSize).toNat + FaultRecord.length + 4) :
    (point.before config).Removes point.owner (point.outcome config) := by
  have settled : (point.before config).Settled := settled_after config point.past
  have onPage : 4005556224 ≤ point.frame.context.esp.toNat := UInt32.le_iff_toNat_le.mp above
  have page : (exceptionStackTop - pageSize).toNat = 4005556224 := rfl
  have length : FaultRecord.length = 52 := rfl
  -- What could be handled would have its record on the stack, where it does not fit.
  refine settled.removes_fault raised.user raised.stack.owns raised.vector
    fun delivery placed can => ?_
  have base := raised.stack.base_le can placed
  rw [placed, toNat_recordAddress, if_pos (by omega)] at base
  omega

/-- A record is placed on the exception stack if the fault came from no higher address. -/
theorem Delivered.placed (delivered : point.Delivered config)
    (low : point.frame.context.esp < exceptionStackTop) : point.Placed := by
  -- The lower end is the guard's doing, and the rest is where the kernel places records.
  obtain ⟨can, planned, -⟩ := delivered.delivers
  have base : 4005556224 ≤ point.recordAt.toNat := delivered.stack.base_le can planned
  have number := toNat_recordAddress point.frame.context.esp
  have below : point.frame.context.esp.toNat < 4005560320 := UInt32.lt_iff_toNat_lt.mp low
  rw [← planned] at number
  constructor <;> split at number <;> omega

/-- The addresses of a record are those between its ends. -/
theorem Placed.between (placed : point.Placed) {va : Address} (among : va ∈ point.record) :
    point.recordAt.toNat ≤ va.toNat ∧ va.toNat < point.recordAt.toNat + 52 := by
  -- The record ends far below the top of all addresses, so that its range does not wrap around.
  obtain ⟨offset, within, rfl⟩ := mem_addressRange.mp among
  have top := placed.le_top
  have length : FaultRecord.length = 52 := rfl
  have count : addressCount = 4294967296 := rfl
  rw [toNat_add_of_lt (by omega)]
  omega

/-- A delivered fault on the exception stack is confined. -/
theorem Delivered.confined (delivered : point.Delivered config)
    (above : exceptionStackTop - pageSize ≤ point.frame.context.esp)
    (low : point.frame.context.esp < exceptionStackTop) : point.Confined config := by
  obtain ⟨can, -, delivers⟩ := delivered.delivers
  have placed := delivered.placed low
  have base := placed.base_le
  have top := placed.le_top
  have onPage : 4005556224 ≤ point.frame.context.esp.toNat := UInt32.le_iff_toNat_le.mp above
  have ends := placed.esp_eq.resolve_left (by omega)
  -- As numbers, the addresses of the record lie between the page base and the stack pointer.
  have page : (exceptionStackTop - pageSize).toNat = 4005556224 := rfl
  have length : FaultRecord.length = 52 := rfl
  refine
    { entered := can.registered
      recorded := delivers.record_eq
      inside := fun va among => ?_
      ends := by omega
      kept := fun va here high => ?_ }
  · have between := placed.between among
    rw [pageNumber_eq_iff, page]
    omega
  · -- The page keeps its frame, and no byte of the record has the same offset in it.
    have differs := delivers.memory
    obtain ⟨entry, found⟩ := Option.isSome_iff_exists.mp delivered.stack.mapped
    rw [← Memory.entryAt?_congr here] at found
    have again : (point.outcome config).2.memory.entryAt? point.space va = some entry := by
      rw [Memory.entryAt?, Memory.table?_congr differs.spaces_eq]
      exact found
    rw [Memory.byteAt_of_entry found, Memory.byteAt_of_entry again]
    refine differs.bytes_eq entry.frame _ (pageOffset_lt va) ?_
    intro offset within _ _ _ clash
    change ((point.recordAt + UInt32.ofNat offset) % pageSize).toNat = _ at clash
    have between := placed.between (mem_addressRange.mpr ⟨offset, within, rfl⟩)
    rw [pageNumber_eq_iff, page] at here
    simp only [UInt32.toNat_mod, toNat_pageSize] at clash
    omega

/-- One fault happens on the exception stack, at or below the record of another one. -/
def NestsIn (inner outer : FaultPoint) : Prop :=
  exceptionStackTop - pageSize ≤ inner.frame.context.esp ∧
    inner.frame.context.esp ≤ outer.recordAt

/-- The record of one fault is above that of another one, with a word to spare. -/
def Above (outer inner : FaultPoint) : Prop :=
  inner.recordAt.toNat + 56 ≤ outer.recordAt.toNat

/-- Records are above each other in order, also over several steps. -/
instance : Trans Above Above Above where
  trans := fun lower lowest => by unfold Above at *; omega

/-- A fault at or below a record has its own record lower. -/
theorem NestsIn.above (nests : inner.NestsIn outer) (placed : inner.Placed) :
    Above outer inner := by
  -- It is on the exception stack, so that its record goes a record and a word below it.
  have above : 4005556224 ≤ inner.frame.context.esp.toNat := UInt32.le_iff_toNat_le.mp nests.1
  have below := UInt32.le_iff_toNat_le.mp nests.2
  have stacked := placed.esp_eq
  unfold Above
  omega

/-- Two records one of which is above the other have no address in common. -/
theorem Above.disjoint (higher : Above outer inner) (outerPlaced : outer.Placed)
    (innerPlaced : inner.Placed) : List.Disjoint outer.record inner.record := by
  intro va among amongst
  -- A common address would be in both ranges, and these are apart.
  have least := (outerPlaced.between among).1
  have most := (innerPlaced.between amongst).2
  unfold Above at higher
  omega

/-- A return address overlaps no record that is its own, below it or above it. -/
theorem Placed.disjoint_returnWord (placed : point.Placed) (otherPlaced : other.Placed)
    (order : point.recordAt = other.recordAt ∨ Above point other ∨ Above other point) :
    List.Disjoint point.returnWord other.record := by
  intro va word among
  obtain ⟨offset, within, rfl⟩ := mem_addressRange.mp word
  have between := otherPlaced.between among
  have stacked := placed.esp_eq
  have inside := placed.le_top
  have base := otherPlaced.base_le
  have top := otherPlaced.le_top
  have length : (wordBytes point.frame.context.eip).length = 4 := rfl
  have number : (point.frame.context.esp - 4 + UInt32.ofNat offset).toNat =
      (point.frame.context.esp.toNat + 4294967292 + offset) % 4294967296 := by
    rw [UInt32.toNat_add, UInt32.toNat_sub, UInt32.toNat_ofNat']
    have four : UInt32.toNat 4 = 4 := rfl
    omega
  rw [number] at between
  unfold Above at order
  -- The word is right above its own record, or off the exception stack altogether.
  rcases order with same | below | above
  · have equal := congrArg UInt32.toNat same
    omega
  · omega
  · omega

/-- Records one above the other take 56 bytes of the exception stack each. -/
theorem length_le {rest : List FaultPoint} (chain : (point :: rest).IsChain Above)
    (base : ∀ other ∈ point :: rest, 4005556224 ≤ other.recordAt.toNat) :
    4005556224 + 56 * rest.length ≤ point.recordAt.toNat := by
  -- Induct on the faults: the rest of them have their records below the first one.
  induction rest generalizing point with
  | nil => exact base point (List.mem_cons_self ..)
  | cons next rest ih =>
    obtain ⟨higher, chain⟩ := List.isChain_cons_cons.mp chain
    have room := ih chain fun other among => base other (List.mem_cons_of_mem _ among)
    unfold Above at higher
    rw [List.length_cons]
    omega

end FaultPoint

/-- Faults each of which happens while those before it are being handled. -/
structure FaultChain (config : Config) (points : List FaultPoint) : Prop where
  /-- Every fault is delivered. -/
  delivered : ∀ point ∈ points, point.Delivered config
  /-- The first one happens below the top of the exception stack. -/
  first : ∀ point ∈ points.head?, point.frame.context.esp < exceptionStackTop
  /-- Every other one happens at or below the record of the one before. -/
  nested : points.IsChain fun outer inner => inner.NestsIn outer

/-- The records of faults are apart from each other, and from all return addresses. -/
structure Apart (points : List FaultPoint) : Prop where
  /-- No two records have an address in common. -/
  records : points.Pairwise fun outer inner => List.Disjoint outer.record inner.record
  /-- On the way back from its handler, a fault has nothing written but its return address. -/
  returns : ∀ point ∈ points, ∀ η,
    (Program.returnTo point.frame.context : Program η Unit).run.AsksOnly
      (Request.WritesOnly point.returnWord)
  /-- No return address overlaps a record. -/
  words : ∀ point ∈ points, ∀ other ∈ points, List.Disjoint point.returnWord other.record
  /-- There are at most seventy-three faults. -/
  few : points.length ≤ 73

namespace FaultChain

variable {config : Config} {points : List FaultPoint}

/-- All faults of a chain happen below the top of the exception stack. -/
theorem low (chain : FaultChain config points) :
    ∀ point ∈ points, point.frame.context.esp < exceptionStackTop := by
  -- A record ends on the exception stack, so that whatever nests in it is below the top.
  refine List.IsChain.induction _ points (List.IsChain.iff_mem.mp chain.nested) ?_ ?_
  · rintro outer inner ⟨among, -, nests⟩ low
    have top := ((chain.delivered outer among).placed low).le_top
    have below := UInt32.le_iff_toNat_le.mp nests.2
    exact UInt32.lt_iff_toNat_lt.mpr (show _ < 4005560320 by omega)
  · exact fun nonempty => chain.first _ (List.head_mem_head? nonempty)

/-- Every record of a chain is placed on the exception stack. -/
theorem placed (chain : FaultChain config points) : ∀ point ∈ points, point.Placed :=
  fun point among => (chain.delivered point among).placed (chain.low point among)

/-- Every record is above the next one. -/
theorem above (chain : FaultChain config points) : points.IsChain FaultPoint.Above :=
  List.IsChain.imp_of_mem_imp (fun _ inner _ among nests => nests.above (chain.placed inner among))
    chain.nested

/-- What the faults of a chain write is apart. -/
theorem apart (chain : FaultChain config points) : Apart points := by
  have ordered := chain.above.pairwise
  refine ⟨?_, fun _ _ _ => Program.writesOnly_returnTo _, ?_, ?_⟩
  · exact ordered.imp_of_mem fun outer inner higher =>
      higher.disjoint (chain.placed _ outer) (chain.placed _ inner)
  · -- Of two faults of the chain one is lower, or they are the same.
    have either : points.Pairwise fun point other => point.recordAt = other.recordAt ∨
        point.Above other ∨ other.Above point := ordered.imp fun higher => .inr (.inl higher)
    have among := either.forall_of_forall_of_flip (fun _ _ => .inl rfl)
      (ordered.imp fun higher => .inr (.inr higher))
    exact fun point here other there => (chain.placed point here).disjoint_returnWord
      (chain.placed other there) (among here there)
  · -- The first record is below the top, and the last one above the base, of the same page.
    cases points with
    | nil => exact Nat.zero_le _
    | cons point rest =>
      have room := FaultPoint.length_le chain.above fun other among =>
        (chain.placed other among).base_le
      have top := (chain.placed point (List.mem_cons_self ..)).le_top
      rw [List.length_cons]
      omega

end FaultChain

/--
A page fault on a guarded exception stack has its record on the page of the stack, one word below
the stack pointer, and changes nothing from this word on. Faults that nest in each other therefore
never overwrite a record, neither with their own nor with a return address, and at most
seventy-three of them nest. A fault that finds too little room for its record is the end of its
environment.
-/
theorem nestedFaults_after (config : Config) :
    (∀ point : FaultPoint, point.Delivered config →
      exceptionStackTop - pageSize ≤ point.frame.context.esp →
      point.frame.context.esp < exceptionStackTop → point.Confined config) ∧
    (∀ points, FaultChain config points → Apart points) ∧
    ∀ point : FaultPoint, point.Raised config →
      exceptionStackTop - pageSize ≤ point.frame.context.esp →
      point.frame.context.esp.toNat <
        (exceptionStackTop - pageSize).toNat + FaultRecord.length + 4 →
      (point.before config).Removes point.owner (point.outcome config) :=
  ⟨fun _ delivered => delivered.confined, fun _ chain => chain.apart,
    fun _ raised => raised.removes⟩

/-- The second environment maps its exception stack, and has a handler. -/
def stackGuarded : List KernelEvent :=
  -- The caller's page, and the entry point that user programs register.
  [.create ⟨0, []⟩, .create ⟨0, []⟩, .reschedule,
    .trap (Machine.called .initial .allocPage { second := 0xeebff000, third := 7 }) 0,
    .trap (Machine.called .initial .setFaultEntry { second := 0xeebfd008 }) 0]

/-- It faults on its own stack. -/
def outerFault : FaultPoint where
  past := stackGuarded
  owner := slotAt 1
  space := ⟨1⟩
  frame := { TrapFrame.initial with vector := TrapVector.pageFault }
  address := 0x1234
  -- The resumed stack pointer is the place of its record, below the top of the stack.
  resumed :=
    { TrapFrame.initial with
      vector := TrapVector.pageFault
      context := { TrapFrame.initial.context with esp := 0xeebfffcc, eip := 0xeebfd008 } }

/-- Its handler faults at once. -/
def innerFault : FaultPoint :=
  { outerFault with
    past := stackGuarded ++ [.trap outerFault.frame outerFault.address]
    frame := outerFault.resumed
    address := 0x5678
    -- Its own record is below the outer one, with a word of distance.
    resumed :=
      { outerFault.resumed with
        context := { outerFault.resumed.context with esp := 0xeebfff94 } } }

/-- A fault with room for all of its record but one byte. -/
def deepFault : FaultPoint :=
  -- The stack pointer is that near to the lower end of the page.
  { outerFault with
    frame :=
      { outerFault.frame with context := { outerFault.frame.context with esp := 0xeebff037 } } }

/-- A handler that faults has its record below the one that it handles, if it has the room. -/
theorem nestedFaults_twice :
    (innerFault.Delivered { frames := 16 } ∧ innerFault.Confined { frames := 16 }) ∧
      (FaultChain { frames := 16 } [outerFault, innerFault] ∧ Apart [outerFault, innerFault]) ∧
      deepFault.Raised { frames := 16 } ∧
        (deepFault.before { frames := 16 }).Removes (slotAt 1)
          (deepFault.outcome { frames := 16 }) := by
  have outerDelivered : outerFault.Delivered { frames := 16 } :=
    { stack :=
        { owns := by decide +kernel
          held := by decide +kernel
          mapped := by decide +kernel
          guarded := by decide +kernel }
      user := by decide
      vector := rfl
      resumes := by decide +kernel }
  have innerDelivered : innerFault.Delivered { frames := 16 } :=
    { stack :=
        { owns := by decide +kernel
          held := by decide +kernel
          mapped := by decide +kernel
          guarded := by decide +kernel }
      user := by decide
      vector := rfl
      resumes := by decide +kernel }
  -- The inner fault comes while the handler of the outer one runs.
  have chain : FaultChain { frames := 16 } [outerFault, innerFault] :=
    { delivered := by simp [outerDelivered, innerDelivered]
      first := by simp only [List.head?_cons, Option.mem_some, forall_eq']; decide
      nested := List.isChain_pair.mpr ⟨by decide, by decide⟩ }
  have deepRaised : deepFault.Raised { frames := 16 } :=
    { stack := outerDelivered.stack
      user := by decide
      vector := rfl }
  obtain ⟨confined, apart, removes⟩ := nestedFaults_after { frames := 16 }
  exact ⟨⟨innerDelivered, confined innerFault innerDelivered (by decide) (by decide)⟩,
    ⟨chain, apart _ chain⟩, deepRaised, removes deepFault deepRaised (by decide) (by decide)⟩

end Kernel

end Exokernel
