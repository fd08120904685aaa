import Exokernel.Proofs.Memory.Private
import Exokernel.Proofs.WriteConfinement

/-! Loads and stores use all bytes of a range, or fault at the first one that is refused. -/

namespace Exokernel

/-- The addresses of a range do not wrap around before they leave user memory. -/
theorem toNat_add_of_below {va : Address} {offset : Nat}
    (below : ∀ earlier < offset, va + UInt32.ofNat earlier < userTop) :
    (va + UInt32.ofNat offset).toNat = va.toNat + offset := by
  -- Induct on the offset: what comes behind a user address is not past the last address.
  induction offset with
  | zero => simp
  | succ offset ih =>
    have here := ih fun earlier sooner => below earlier (by omega)
    have bound := UInt32.lt_iff_toNat_lt.mp (below offset (Nat.lt_succ_self offset))
    have count : addressCount = 4294967296 := rfl
    rw [here, toNat_userTop] at bound
    exact toNat_add_of_lt (by omega)

/-- Number of bytes from an address to the end of its page. -/
def pageRest (va : Address) : Nat :=
  pageLength - (va % pageSize).toNat

/-- Of a page there is always something left. -/
theorem pageRest_pos (va : Address) : 0 < pageRest va := by
  -- A remainder is less than the length.
  have length : pageLength = 4096 := rfl
  rw [pageRest, UInt32.toNat_mod, toNat_pageSize]
  omega

/-- What lies behind an address but not behind the end of its page is on the same page. -/
theorem pageNumber_add_of_lt {va : Address} {offset : Nat} (inside : offset < pageRest va) :
    pageNumber (va + UInt32.ofNat offset) = pageNumber va := by
  -- The last page ends with the last address, so that nothing wraps around.
  have length : pageLength = 4096 := rfl
  have count : addressCount = 4294967296 := rfl
  have bound := va.toNat_lt
  rw [pageRest, UInt32.toNat_mod, toNat_pageSize] at inside
  rw [pageNumber_eq_iff, toNat_add_of_lt (by omega)]
  omega

/-- The first of `count` addresses from `start` on that satisfies a test, page by page. -/
def firstByPages (test : Address → Bool) (count : Nat) (start : Address) : Option Address :=
  -- One look at each page, and on to the start of the next one.
  if count = 0 then none
  else if test start then some start
  else firstByPages test (count - pageRest start) (start + UInt32.ofNat (pageRest start))
termination_by count
decreasing_by
  have step := pageRest_pos start
  omega

/-- A search goes on behind the addresses that fail its test. -/
theorem firstAddress_skip {test : Address → Bool} (step : Nat) {count : Nat} {start : Address}
    (failed : ∀ offset < step, test (start + UInt32.ofNat offset) = false) :
    firstAddress test count start =
      firstAddress test (count - step) (start + UInt32.ofNat step) := by
  -- Induct on the number of addresses to skip, of which the first one comes first.
  induction step generalizing count start with
  | zero => simp
  | succ step ih =>
    cases count with
    | zero => simp only [Nat.zero_sub, firstAddress]
    | succ count =>
      have here : test start = false := by simpa using failed 0 (Nat.succ_pos step)
      have behind : firstAddress test count (start + 1) =
          firstAddress test (count - step) (start + 1 + UInt32.ofNat step) :=
        ih fun offset inside => by
          rw [← offset_succ]
          exact failed (offset + 1) (by omega)
      rw [firstAddress, here, if_neg Bool.false_ne_true, behind, offset_succ, Nat.add_sub_add_right]

/-- To search page by page is enough where all addresses of a page pass a test, or none does. -/
theorem firstAddress_eq_firstByPages {test : Address → Bool}
    (uniform : ∀ va other, pageNumber va = pageNumber other → test va = test other)
    (count : Nat) (start : Address) :
    firstAddress test count start = firstByPages test count start := by
  -- Induct on the pages: if the first address fails the test, so does the rest of its page.
  fun_induction firstByPages test count start with
  | case1 => rfl
  | case2 count start left passed =>
    obtain ⟨rest, rfl⟩ := Nat.exists_eq_succ_of_ne_zero left
    rw [firstAddress, if_pos passed]
  | case3 count start left failed ih =>
    rw [firstAddress_skip (pageRest start) fun offset inside => ?_, ih]
    rw [uniform _ start (pageNumber_add_of_lt inside)]
    exact Bool.eq_false_iff.mpr failed

namespace Memory

variable {memory next : Memory} {space : SpaceHandle} {va : Address}

/--
User code may use the byte with a number: to read it, or also to write it.

Numbers do not wrap around, so that what lies past the last address is never granted.
-/
structure Grants (memory : Memory) (space : SpaceHandle) (write : Bool) (byte : Nat) : Prop where
  /-- The byte is in user memory. -/
  below : byte < userTop.toNat
  /-- It is mapped for user code, and writable where that is asked for. -/
  mapped : ∃ entry, memory.entryAt? space (UInt32.ofNat byte) = some entry ∧
    entry.flags.contains .user = true ∧ (write = true → entry.flags.contains .writable = true)

/-- Fault code of an access that is refused at an address. -/
def faultCode (memory : Memory) (space : SpaceHandle) (write : Bool) (va : Address) : Word :=
  userFault ||| (if write then writeFault else 0) |||
    if va < userTop ∧ (memory.entryAt? space va).isSome then protectionFault else 0

/-- An address is mapped to the byte at a place of a frame. -/
def MapsByte (memory : Memory) (space : SpaceHandle) (va : Address) (frame : FrameNumber)
    (place : Nat) : Prop :=
  -- The place is the address within its page.
  ∃ entry, memory.entryAt? space va = some entry ∧ entry.frame = frame ∧
    (va % pageSize).toNat = place

/-- Data was written to the addresses of a range, one after another, and nothing else was. -/
structure Writes (memory : Memory) (space : SpaceHandle) (va : Address) (data : List UInt8)
    (next : Memory) : Prop extends memory.DiffersWithin space va data.length next where
  /-- What goes to a byte of a frame last is found there. -/
  written : ∀ offset (inside : offset < data.length), ∀ frame place,
    memory.MapsByte space (va + UInt32.ofNat offset) frame place →
    (∀ later < data.length, offset < later →
      ¬memory.MapsByte space (va + UInt32.ofNat later) frame place) →
    next.pool.byteAt frame place = data[offset]

/-- Of the data that goes to one byte of a frame, the last is found there. -/
theorem poolByte_written (backed : memory.Backed) {data : List UInt8}
    (copied : memory.copyOut space va data = (.ok (), next)) (offset : Nat)
    (inside : offset < data.length) (frame : FrameNumber) (place : Nat)
    (here : memory.MapsByte space (va + UInt32.ofNat offset) frame place)
    (last : ∀ later < data.length, offset < later →
      ¬memory.MapsByte space (va + UInt32.ofNat later) frame place) :
    next.pool.byteAt frame place = data[offset] := by
  -- Induct on the data: the first byte stays where it was put, as the rest goes elsewhere.
  fun_induction copyOut memory space va data generalizing offset with
  | case1 => simp at inside
  | case2 => simp at copied
  | case3 memory va byte rest first mapped pool ih =>
    have kept := backed.setByte first.frame (va % pageSize).toNat byte
    cases offset with
    | zero =>
      have start : va + UInt32.ofNat 0 = va := by simp
      obtain ⟨entry, found, rfl, rfl⟩ := here
      rw [start] at found last ⊢
      rw [mapped, Option.some.injEq] at found
      subst found
      have stays : (copyOut { memory with pool } space (va + 1) rest).2.pool.byteAt first.frame
          (va % pageSize).toNat = pool.byteAt first.frame (va % pageSize).toNat :=
        poolByte_copyOut kept (pageOffset_lt va) fun later inside other there same place => by
          rw [← offset_succ] at there place
          exact last (later + 1) (by simpa using inside) (Nat.succ_pos later)
            ⟨other, there, same, place⟩
      rw [copied] at stays
      rw [stays, FramePool.byteAt_setByte (backed space va first mapped), if_pos rfl]
      rfl
    | succ offset =>
      rw [offset_succ] at here
      refine ih kept copied offset (by simpa using inside) here fun later inside sooner there => ?_
      rw [← offset_succ] at there
      exact last (later + 1) (by simpa using inside) (by omega) there

/-- What is written to mapped addresses is written there in order, and nowhere else. -/
theorem writes_copyOut (backed : memory.Backed) {data : List UInt8}
    (mapped : ∀ offset < data.length,
      (memory.entryAt? space (va + UInt32.ofNat offset)).isSome = true) :
    memory.Writes space va data (memory.copyOut space va data).2 where
  toDiffersWithin := differsWithin_copyOut backed space va data
  written := poolByte_written backed (Prod.ext (copyOut_ok mapped) rfl)

end Memory

namespace Machine

variable {machine next : Machine} {env : EnvId} {frame : TrapFrame} {space : SpaceHandle}
  {write : Bool} {va : Address} {length : Nat}

/-- Who runs is seen from the processor. -/
theorem current_of_cpu (running : machine.cpu = .running env frame) :
    machine.current = some env := by
  -- Nothing else is looked at.
  rw [current, running]

/-- The memory management grants what the mappings allow. -/
theorem grants_iff (used : machine.kernel.memory.active = some space) :
    machine.kernel.memory.Grants space write va.toNat ↔ machine.refusal? write va = none := by
  -- Both name the same conditions, of which the last one is for stores alone.
  rw [refusal?_eq_none]
  constructor
  · rintro ⟨below, entry, found, user, writable⟩
    rw [UInt32.ofNat_toNat] at found
    refine ⟨space, entry, used, UInt32.lt_iff_toNat_lt.mpr below, found, ?_⟩
    cases write with
    | false => exact user
    | true => exact PageFlags.contains_or_iff.mpr ⟨user, writable rfl⟩
  · rintro ⟨other, entry, active, below, found, allowed⟩
    rw [used, Option.some.injEq] at active
    subst active
    refine ⟨UInt32.lt_iff_toNat_lt.mp below, entry, by rwa [UInt32.ofNat_toNat], ?_⟩
    cases write with
    | false => exact ⟨allowed, by simp⟩
    | true => exact (PageFlags.contains_or_iff.mp allowed).imp_right fun writable _ => writable

/-- The fault code of a refused access tells what refused it. -/
theorem refusal?_of_not_grants (used : machine.kernel.memory.active = some space)
    (refused : ¬machine.kernel.memory.Grants space write va.toNat) :
    machine.refusal? write va = some (machine.kernel.memory.faultCode space write va) := by
  -- The walk ends outside of user memory, at a missing entry, or at one without permission.
  rw [grants_iff used] at refused
  have base : accessCode write = userFault ||| if write then writeFault else 0 := by
    cases write <;> rfl
  unfold refusal? at refused ⊢
  simp only [used, Memory.faultCode, base] at refused ⊢
  by_cases above : userTop ≤ va
  · simp [above, UInt32.not_lt.mpr above]
  · have below := UInt32.not_le.mp above
    cases found : machine.kernel.memory.entryAt? space va with
    | none => simp [above]
    | some entry =>
      simp only [above, found, if_false] at refused ⊢
      split at refused
      · simp at refused
      · rename_i denied
        simp [denied, below]

/-- Every byte of a range is granted if none of its addresses is refused. -/
theorem grants_range_iff (used : machine.kernel.memory.active = some space) :
    (∀ byte ∈ Set.Ico va.toNat (va.toNat + length),
        machine.kernel.memory.Grants space write byte) ↔
      ∀ offset < length, machine.refusal? write (va + UInt32.ofNat offset) = none := by
  -- What is granted is below the top of user memory, and there no range wraps around.
  have count : addressCount = 4294967296 := rfl
  constructor
  · intro granted offset inside
    have grants := granted (va.toNat + offset) ⟨by omega, by omega⟩
    have below := grants.below
    rw [toNat_userTop] at below
    rwa [← grants_iff used, toNat_add_of_lt (by omega)]
  · rintro passed byte ⟨above, inside⟩
    obtain ⟨offset, rfl⟩ := Nat.exists_eq_add_of_le above
    have below : ∀ earlier < offset, va + UInt32.ofNat earlier < userTop := fun earlier sooner => by
      obtain ⟨-, -, -, below, -⟩ := refusal?_eq_none.mp (passed earlier (by omega))
      exact below
    rw [← toNat_add_of_below below, grants_iff used]
    exact passed offset (by omega)

/-- The memory management treats all addresses of a page alike. -/
theorem refusal?_of_pageNumber_eq {other : Address} (page : pageNumber va = pageNumber other) :
    machine.refusal? write va = machine.refusal? write other := by
  -- User memory ends with a page, and entries are for pages.
  have top : userTop ≤ va ↔ userTop ≤ other := by
    have numbers := pageNumber_eq_iff.mp page
    rw [UInt32.le_iff_toNat_le, UInt32.le_iff_toNat_le, toNat_userTop]
    omega
  simp only [refusal?, top, Memory.entryAt?_congr page]

/-- A range is resolved by one look at each of its pages. -/
theorem firstRefusal_eq_firstByPages (machine : Machine) (write : Bool) (va : Address)
    (length : Nat) : machine.firstRefusal write va length =
      firstByPages (fun address => (machine.refusal? write address).isSome) length va :=
  firstAddress_eq_firstByPages (fun _ _ page => by rw [refusal?_of_pageNumber_eq page]) length va

/-- An access of an environment faults at an address of its range. -/
structure Faults (machine : Machine) (env : EnvId) (frame : TrapFrame) (space : SpaceHandle)
    (write : Bool) (va : Address) (length : Nat) (bad : Address) (trapped : Trapped)
    (next : Machine) : Prop where
  /-- The address is the least one of the range that is refused. -/
  least : IsLeast {byte ∈ Set.Ico va.toNat (va.toNat + length) |
    ¬machine.kernel.memory.Grants space write byte} bad.toNat
  /-- All that happens to the machine is one page fault, which knows nothing of any data. -/
  trap_eq : next = apply (machine.kernel.trap { frame with
    vector := TrapVector.pageFault, code := machine.kernel.memory.faultCode space write bad } bad)
  /-- The environment is told whether it still owns the processor. -/
  trapped_eq : trapped = if next.current = some env then .upcall else .descheduled

/-- An access uses its whole range and is done, or faults at one address of it. -/
structure AllOrNothing {Result : Type} (machine : Machine) (env : EnvId) (frame : TrapFrame)
    (space : SpaceHandle) (write : Bool) (va : Address) (length : Nat)
    (Done : Result → Machine → Prop) (outcome : Except Trapped Result × Machine) : Prop where
  /-- It succeeds exactly if every byte of the range is granted. -/
  succeeds : (∃ result, outcome.1 = .ok result) ↔
    ∀ byte ∈ Set.Ico va.toNat (va.toNat + length), machine.kernel.memory.Grants space write byte
  /-- If it succeeds, it is done. -/
  done : ∀ result, outcome.1 = .ok result → Done result outcome.2
  /-- Otherwise it faults. -/
  faults : ∀ trapped, outcome.1 = .error trapped →
    ∃ bad, machine.Faults env frame space write va length bad trapped outcome.2

/-- A load gives the bytes that are mapped at its range, and the machine stays as it is. -/
def Loads (machine : Machine) (space : SpaceHandle) (va : Address) (length : Nat)
    (bytes : List UInt8) (next : Machine) : Prop :=
  bytes = (addressRange va length).map (machine.kernel.memory.byteAt space) ∧ next = machine

/-- A store writes its data to the memory, and the rest of the machine stays as it is. -/
def Stores (machine : Machine) (space : SpaceHandle) (va : Address) (data : List UInt8)
    (_ : Unit) (next : Machine) : Prop :=
  -- There is no result to tell about.
  ∃ memory, next = { machine with kernel := { machine.kernel with memory } } ∧
    machine.kernel.memory.Writes space va data memory

/-- The first refused address of a range is the least one. -/
theorem isLeast_of_firstRefusal (used : machine.kernel.memory.active = some space) {bad : Address}
    (search : machine.firstRefusal write va length = some bad) :
    IsLeast {byte ∈ Set.Ico va.toNat (va.toNat + length) |
      ¬machine.kernel.memory.Grants space write byte} bad.toNat := by
  obtain ⟨found, offset, inside, here, before⟩ := firstAddress_eq_some search
  have passed : ∀ earlier < offset,
      machine.refusal? write (va + UInt32.ofNat earlier) = none := fun earlier sooner => by
    simpa using before earlier sooner
  -- All that comes before it is granted, so that up to there the addresses go upwards.
  have place : bad.toNat = va.toNat + offset := by
    rw [here]
    refine toNat_add_of_below fun earlier sooner => ?_
    obtain ⟨-, -, -, below, -⟩ := refusal?_eq_none.mp (passed earlier sooner)
    exact below
  refine ⟨⟨⟨by omega, by omega⟩, ?_⟩, ?_⟩
  · rw [grants_iff used]
    exact Option.isSome_iff_ne_none.mp found
  · rintro byte ⟨⟨above, -⟩, denied⟩
    by_contra sooner
    exact denied ((grants_range_iff used).mpr passed byte ⟨above, by omega⟩)

/-- A range with a refused address is not used. -/
theorem resolveRange_of_not_granted (running : machine.cpu = .running env frame)
    (used : machine.kernel.memory.active = some space)
    (refused : ¬∀ offset < length, machine.refusal? write (va + UInt32.ofNat offset) = none) :
    ∃ bad trapped next, machine.resolveRange write va length = (.error trapped, next) ∧
      machine.Faults env frame space write va length bad trapped next := by
  cases search : machine.firstRefusal write va length with
  | none =>
    refine absurd (fun offset inside => ?_) refused
    simpa using firstAddress_eq_none search offset inside
  | some bad =>
    have least := isLeast_of_firstRefusal used search
    have code := refusal?_of_not_grants used least.1.2
    -- The fault is raised with the code that the walk for this very address ends with.
    have resolved : machine.resolveRange write va length =
        (.error ((machine.raise TrapVector.pageFault
          (machine.kernel.memory.faultCode space write bad) bad).trappedFor env),
        machine.raise TrapVector.pageFault
          (machine.kernel.memory.faultCode space write bad) bad) := by
      simp only [resolveRange, current_of_cpu running, search, code, Option.getD_some]
    refine ⟨bad, _, _, resolved, least, ?_, ?_⟩
    · rw [raise, running]
    · simp only [trappedFor, isRunning, beq_iff_eq]

/-- An access is all or nothing if it goes on exactly where its range is resolved. -/
theorem allOrNothing_of_resolve {Result : Type} {Done : Result → Machine → Prop}
    {outcome : Except Trapped Result × Machine} (running : machine.cpu = .running env frame)
    (used : machine.kernel.memory.active = some space)
    (granted : (∀ offset < length, machine.refusal? write (va + UInt32.ofNat offset) = none) →
      ∃ result, outcome.1 = .ok result ∧ Done result outcome.2)
    (refused : ∀ trapped next, machine.resolveRange write va length = (.error trapped, next) →
      outcome = (.error trapped, next)) :
    machine.AllOrNothing env frame space write va length Done outcome := by
  -- Either nothing is refused, or the range cannot be resolved and the access ends there.
  by_cases passed : ∀ offset < length, machine.refusal? write (va + UInt32.ofNat offset) = none
  · obtain ⟨result, ok, done⟩ := granted passed
    refine ⟨⟨fun _ => (grants_range_iff used).mpr passed, fun _ => ⟨result, ok⟩⟩, ?_, ?_⟩
    · intro other same
      rw [ok, Except.ok.injEq] at same
      rwa [← same]
    · intro trapped failed
      rw [ok] at failed
      simp at failed
  · obtain ⟨bad, trapped, next, resolved, faults⟩ := resolveRange_of_not_granted running used passed
    obtain rfl := refused trapped next resolved
    refine ⟨⟨fun ⟨_, ok⟩ => by simp at ok, fun grants => ?_⟩, fun _ ok => by simp at ok, ?_⟩
    · exact absurd ((grants_range_iff used).mp grants) passed
    · intro other same
      rw [Except.error.injEq] at same
      exact ⟨bad, same ▸ faults⟩

/-- A load reads its whole range, or faults. -/
theorem allOrNothing_load (running : machine.cpu = .running env frame)
    (used : machine.kernel.memory.active = some space) (va : Address) (length : Nat) :
    machine.AllOrNothing env frame space false va length (machine.Loads space va length)
      (machine.load va length) := by
  -- What is granted is mapped, so that to copy it out of the frames cannot fail.
  refine allOrNothing_of_resolve running used (fun granted => ?_) fun trapped next resolved => ?_
  · rw [load_of_granted (current_of_cpu running) used granted]
    exact ⟨_, rfl, rfl, rfl⟩
  · simp only [load, resolved]

/-- A store writes to its whole range, or faults. -/
theorem allOrNothing_store (running : machine.cpu = .running env frame)
    (used : machine.kernel.memory.active = some space)
    (backed : machine.kernel.memory.Backed) (va : Address) (data : List UInt8) :
    machine.AllOrNothing env frame space true va data.length (machine.Stores space va data)
      (machine.store va data) := by
  -- A range without a refused address is mapped, so that its bytes can be written.
  refine allOrNothing_of_resolve running used (fun granted => ?_) fun trapped next resolved => ?_
  · rw [store_of_granted (current_of_cpu running) used granted]
    exact ⟨(), rfl, _, rfl, Memory.writes_copyOut backed (mapped_of_granted used granted)⟩
  · simp only [store, resolved]

/--
Accesses of the running environment are all or nothing. One that may use every byte of its range
reads or writes just these bytes and takes no trap; any other one takes one page fault, at the
least address that is refused, and neither reads nor writes.
-/
theorem accesses_after (config : Config) (events : List MachineEvent) (env : EnvId)
    (frame : TrapFrame) (running : (after config events).cpu = .running env frame) :
    ∃ space, (after config events).kernel.memory.active = some space ∧
      (after config events).kernel.space? env = some space ∧
      (∀ va length, (after config events).AllOrNothing env frame space false va length
        ((after config events).Loads space va length) ((after config events).load va length)) ∧
      ∀ va data, (after config events).AllOrNothing env frame space true va data.length
        ((after config events).Stores space va data) ((after config events).store va data) := by
  have coupled := coupled_after config events
  generalize after config events = machine at coupled running
  -- Whoever runs owns a slot, and the space in use is the one of that slot.
  obtain ⟨slot, space, runs, rfl⟩ := coupled.runs_of_running (current_of_cpu running)
  exact ⟨space, runs.active, runs.space?_eq, allOrNothing_load running runs.active,
    allOrNothing_store running runs.active runs.backed⟩

/-- A store that runs over the end of the stack is refused there, though not at its start. -/
theorem accesses_overStack :
    let events : List MachineEvent :=
      [.create ⟨0, []⟩, .create ⟨0, []⟩, .create ⟨0, []⟩, .boot]
    let machine := after { frames := 16 } events
    let frame := machine.frame?.getD {}
    let data : List UInt8 := [1, 2, 3]
    machine.cpu = .running ⟨4097⟩ frame ∧
      (machine.load (stackTop - 2) 2).1 = .ok [0, 0] ∧
      (machine.store (stackTop - 2) data).1 = .error .descheduled ∧
      ∃ space bad, machine.Faults ⟨4097⟩ frame space true (stackTop - 2) data.length bad
        .descheduled (machine.store (stackTop - 2) data).2 := by
  -- The first two addresses are on the stack page, and the third is above it.
  intro events machine frame data
  have running : machine.cpu = .running ⟨4097⟩ frame := cpu_of_current (by decide +kernel)
  have loaded : (machine.load (stackTop - 2) 2).1 = .ok [0, 0] := by decide +kernel
  have refused : (machine.store (stackTop - 2) data).1 = .error .descheduled := by decide +kernel
  obtain ⟨space, -, -, -, stores⟩ :=
    accesses_after { frames := 16 } events ⟨4097⟩ frame running
  obtain ⟨bad, faults⟩ := (stores (stackTop - 2) data).faults .descheduled refused
  exact ⟨running, loaded, refused, space, bad, faults⟩

end Machine

end Exokernel
