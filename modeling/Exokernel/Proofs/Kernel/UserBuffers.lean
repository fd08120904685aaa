import Exokernel.Proofs.Kernel.Removal
import Exokernel.Proofs.Memory.Bytes
import Exokernel.Proofs.Memory.UserRanges
import Exokernel.Proofs.Traps

/-! Ranges of user memory that the kernel is given: what it accepts, and what it prints of them. -/

namespace Exokernel

/-- Writing no bytes leaves the console as it is. -/
@[simp] theorem Console.write_nil (console : Console) : console.write [] = console := rfl

namespace Memory

/-- The check of a range is right, and the range can be read and written if it passes. -/
structure Checks (memory : Memory) (handle : SpaceHandle) (flags : PageFlags)
    (va length : Word) : Prop where
  /-- A range passes exactly if every address is permitted. -/
  accepted : memory.userCheck handle va length flags = .ok () ↔
    ∀ offset < length.toNat, memory.Permits handle flags (va + UInt32.ofNat offset)
  /-- Otherwise the first address that is not permitted is reported. -/
  reported : ∀ bad, memory.userCheck handle va length flags = .error bad →
    memory.FirstRefused handle flags va length.toNat bad
  /-- A range that passes is read without a failure. -/
  readable : memory.userCheck handle va length flags = .ok () →
    memory.copyIn handle va length.toNat =
      .ok ((addressRange va length.toNat).map (memory.byteAt handle))
  /-- A range that passes is written without a failure. -/
  writable : memory.userCheck handle va length flags = .ok () →
    ∀ bytes : List UInt8, bytes.length = length.toNat →
      (memory.copyOut handle va bytes).1 = .ok ()

/-- The check lets a range pass although no address is permitted, and nothing can be read there. -/
structure Overlooks (memory : Memory) (handle : SpaceHandle) (flags : PageFlags)
    (va length : Word) : Prop where
  /-- The range passes. -/
  accepted : memory.userCheck handle va length flags = .ok ()
  /-- No address is permitted. -/
  refused : ∀ offset < length.toNat, ¬memory.Permits handle flags (va + UInt32.ofNat offset)
  /-- Reading fails at the first address. -/
  unreadable : memory.copyIn handle va length.toNat = .error va
  /-- Writing fails at the first address, and has written nothing. -/
  unwritable : ∀ byte rest, memory.copyOut handle va (byte :: rest) = (.error va, memory)

variable {memory : Memory} {handle : SpaceHandle} {flags : PageFlags} {va length : Word}

/-- Ranges that start below the last page of all addresses are checked rightly. -/
theorem checks_of_low (inside : va.toNat + length.toNat < addressCount)
    (positive : 1 ≤ length.toNat) (low : va < 0xfffff000) :
    memory.Checks handle flags va length where
  -- Every address that passes the check is permitted, and what is permitted is mapped.
  accepted := userCheck_eq_ok_iff inside low positive
  reported _ failed := firstRefused_of_userCheck inside low positive failed
  readable passed := copyIn_of_mapped fun _ within =>
    (permits_of_userCheck inside low passed within).isSome
  writable passed _ same := copyOut_ok fun _ within =>
    (permits_of_userCheck inside low passed (same ▸ within)).isSome

/-- Ranges on the last page of all addresses are overlooked. -/
theorem Sound.overlooks {size : Nat} {held : Multiset FrameNumber} (sound : memory.Sound size held)
    (inside : va.toNat + length.toNat < addressCount) (positive : 1 ≤ length.toNat)
    (high : 0xfffff000 ≤ va) : memory.Overlooks handle flags va length := by
  have start : 4294963200 ≤ va.toNat := UInt32.le_iff_toNat_le.mp high
  have above : userTop ≤ va := UInt32.le_iff_toNat_le.mpr (by rw [toNat_userTop]; omega)
  have unmapped : memory.entryAt? handle va = none := sound.entryAt?_of_above above
  refine ⟨userCheck_of_last inside high, fun offset within permitted => ?_, ?_, fun byte rest => ?_⟩
  · -- The addresses of the range are no lower than its first one.
    have below := UInt32.lt_iff_toNat_lt.mp permitted.1
    rw [toNat_add_of_lt (by omega), toNat_userTop] at below
    omega
  · obtain ⟨count, rest⟩ := Nat.exists_eq_add_of_le positive
    have here : firstAddress (memory.isUnmapped handle) length.toNat va = some va := by
      rw [rest, Nat.add_comm, firstAddress, if_pos (by rw [isUnmapped, unmapped]; rfl)]
    rw [copyIn, here]
  · rw [Memory.copyOut, unmapped]

end Memory

namespace Kernel

variable {kernel : Kernel} {owner : Slot} {space : SpaceHandle} {va length : Word}
  {frame : TrapFrame} {words : Arguments} {address : Address}

/--
The kernel's check of a range that a program names is right, and reading and writing agree with it,
for every range that starts below the last page of all addresses. Above, it lets every range pass,
and reading and writing fail.
-/
theorem userRanges_after (config : Config) (events : List KernelEvent) (handle : SpaceHandle)
    (flags : PageFlags) (va length : Word) (positive : 1 ≤ length.toNat)
    (inside : va.toNat + length.toNat < addressCount) :
    (va < 0xfffff000 → (after config events).memory.Checks handle flags va length) ∧
      (0xfffff000 ≤ va → (after config events).memory.Overlooks handle flags va length) :=
  ⟨Memory.checks_of_low inside positive,
    (settled_after config events).memory.overlooks inside positive⟩

/--
A range that leaves the stack of a new environment is bad from the end of the stack on, and a byte
on the last page of all addresses is overlooked.
-/
theorem userRanges_edges :
    let memory := (after { frames := 8 } [.create ⟨0, []⟩]).memory
    memory.userCheck ⟨0⟩ 0xeebfdff0 32 .present = .error 0xeebfe000 ∧
      memory.Checks ⟨0⟩ .present 0xeebfdff0 32 ∧ memory.Overlooks ⟨0⟩ .present 0xfffff800 1 :=
  ⟨by decide +kernel,
    (userRanges_after { frames := 8 } [.create ⟨0, []⟩] ⟨0⟩ .present 0xeebfdff0 32
      (by decide) (by decide)).1 (by decide),
    (userRanges_after { frames := 8 } [.create ⟨0, []⟩] ⟨0⟩ .present 0xfffff800 1
      (by decide) (by decide)).2 (by decide)⟩

/-- The caller of a system call that has an address space. -/
theorem callerSpace_of_owner (owns : kernel.current = some owner)
    (held : (kernel.envAt owner).space = some space) :
    kernel.callerSpace = .ok (owner, space) := by
  -- The kernel finds the owner of the processor first, and then its space.
  simp only [callerSpace, Kernel.owner, owns, bind, Except.bind, spaceOf_ok.mpr held]
  rfl

section Console

variable (owns : kernel.current = some owner) (held : (kernel.envAt owner).space = some space)

include owns held

/-- A range that passes the check and can be read is printed. -/
theorem writeConsole_of_ok {bytes : List UInt8}
    (passed : kernel.memory.userCheck space va length (.present ||| .user) = .ok ())
    (read : kernel.memory.copyIn space va length.toNat = .ok bytes) :
    kernel.writeConsole va length =
      (.stay 0, { kernel with console := kernel.console.write bytes }) := by
  -- Both the check and the copy are of the caller's own space.
  simp only [writeConsole, callerSpace_of_owner owns held, passed, read]

/-- A range that passes the check and cannot be read is answered with an error. -/
theorem writeConsole_of_unreadable {bad : Address}
    (passed : kernel.memory.userCheck space va length (.present ||| .user) = .ok ())
    (failed : kernel.memory.copyIn space va length.toNat = .error bad) :
    kernel.writeConsole va length = (.stay SysError.fault.toWord, kernel) := by
  -- Both the check and the copy are of the caller's own space.
  simp only [writeConsole, callerSpace_of_owner owns held, passed, failed]

/-- A range that does not pass the check is the end of the caller. -/
theorem writeConsole_of_error {bad : Address}
    (failed : kernel.memory.userCheck space va length (.present ||| .user) = .error bad) :
    kernel.writeConsole va length =
      (.leave { kernel.freeEnv owner with current := none }.reschedule.1,
        { kernel.freeEnv owner with current := none }.reschedule.2) := by
  -- To destroy the owner of the processor is to free it and to choose another environment.
  simp only [writeConsole, callerSpace_of_owner owns held, failed, destroyEnv_owner owns,
    answerDestroy]

end Console

/-- The caller goes on with a result in its register, and some bytes were printed. -/
structure Printed (kernel : Kernel) (owner : Slot) (frame : TrapFrame) (value : Word)
    (bytes : List UInt8) (outcome : Dispatch × Kernel) : Prop where
  /-- The caller goes on, with the result in its register and all else as it was. -/
  resumes : outcome.1 = .resume (kernel.envAt owner).id (frame.withResult value)
  /-- The bytes were added to the output, and no others. -/
  console_eq : outcome.2.console = kernel.console.write bytes

/-- What a request to print a range of the caller's memory comes to, for every range there is. -/
structure PrintsOrEnds (kernel : Kernel) (owner : Slot) (space : SpaceHandle) (frame : TrapFrame)
    (va length : Word) (outcome : Dispatch × Kernel) : Prop where
  /--
  A range that the caller may read is printed; if it is empty and starts within a page, the caller
  must be able to read that page.
  -/
  printed : (∀ offset < length.toNat,
      kernel.memory.Permits space (.present ||| .user) (va + UInt32.ofNat offset)) →
    (1 ≤ length.toNat ∨ isAligned va = true ∨ 0xfffff000 ≤ va ∨
      kernel.memory.Permits space (.present ||| .user) va) →
    kernel.Printed owner frame 0 ((addressRange va length.toNat).map (kernel.memory.byteAt space))
      outcome
  /-- A range with a byte that the caller may not read is the end of the caller. -/
  ended : va < 0xfffff000 ∨ addressCount ≤ va.toNat + length.toNat →
    ∀ offset < length.toNat,
      ¬kernel.memory.Permits space (.present ||| .user) (va + UInt32.ofNat offset) →
    kernel.Removes owner outcome
  /-- So is an empty range that starts within a page that the caller may not read. -/
  emptied : length = 0 → isAligned va = false → va < 0xfffff000 →
    ¬kernel.memory.Permits space (.present ||| .user) va → kernel.Removes owner outcome
  /-- On the last page of all addresses, the caller goes on with an error instead. -/
  overlooked : 1 ≤ length.toNat → 0xfffff000 ≤ va → va.toNat + length.toNat < addressCount →
    kernel.Printed owner frame SysError.fault.toWord [] outcome

section Request

variable (settled : kernel.Settled) (user : frame.fromUser = true)
  (owns : kernel.current = some owner) (request : frame.Requests .writeConsole words)

include settled user owns request

/-- A request to print that is answered with a value lets the caller go on. -/
theorem Settled.printed {value : Word} {bytes : List UInt8}
    (performed : (kernel.saved owner frame).writeConsole words.first words.second =
      (.stay value, { kernel.saved owner frame with console := kernel.console.write bytes })) :
    kernel.Printed owner frame value bytes (kernel.trap frame address) := by
  obtain ⟨-, savedOwns, ready⟩ := settled.saved user owns
  have here : (kernel.saved owner frame).envAt owner = { kernel.envAt owner with frame } := by
    rw [envAt_saved, if_pos rfl]
  rw [trap_request user owns request address performed]
  -- Printing has changed neither the owner of the processor nor its saved registers.
  generalize moved : ({ kernel.saved owner frame with
    console := kernel.console.write bytes } : Kernel) = acted
  have same : acted.envAt owner = { kernel.envAt owner with frame } := by
    rw [← moved]
    exact here
  have stillOwns : acted.current = some owner := by
    rw [← moved]
    exact owns
  rw [goOn_withResult stillOwns (by rw [same, ← here]; exact ready), same]
  refine ⟨rfl, ?_⟩
  rw [withResult_of_current stillOwns, ← moved]
  rfl

variable (held : (kernel.envAt owner).space = some space)

include held

/-- A request to print a range that does not pass the check removes the caller. -/
theorem Settled.removes_print {bad : Address}
    (failed : kernel.memory.userCheck space words.first words.second (.present ||| .user) =
      .error bad) : kernel.Removes owner (kernel.trap frame address) := by
  -- The check is made with the registers saved, which changes neither memory nor the space.
  have savedHeld : ((kernel.saved owner frame).envAt owner).space = some space := by
    rw [envAt_saved, if_pos rfl]
    exact held
  have savedOwns : (kernel.saved owner frame).current = some owner := owns
  have performed := writeConsole_of_error savedOwns savedHeld failed
  refine settled.removes user owns ?_
  rw [trap_request_leave user owns request address performed]

/-- Every range is printed, or is the end of the caller, or is overlooked. -/
theorem Settled.printsOrEnds : kernel.PrintsOrEnds owner space frame words.first words.second
    (kernel.trap frame address) := by
  have savedOwns : (kernel.saved owner frame).current = some owner := owns
  have savedHeld : ((kernel.saved owner frame).envAt owner).space = some space := by
    rw [envAt_saved, if_pos rfl]
    exact held
  have removed {bad : Address} (failed : kernel.memory.userCheck space words.first words.second
      (.present ||| .user) = .error bad) : kernel.Removes owner (kernel.trap frame address) :=
    settled.removes_print user owns request held failed
  refine
    { printed := fun all touched => ?_
      ended := fun checked offset within refused => ?_
      emptied := fun empty unaligned low refused => ?_
      overlooked := fun positive high inside => ?_ }
  · have passed := Memory.userCheck_of_permits all touched
    have read := Memory.copyIn_of_mapped fun offset within => (all offset within).isSome
    exact settled.printed user owns request
      (writeConsole_of_ok savedOwns savedHeld passed read)
  · obtain ⟨bad, failed⟩ := Memory.userCheck_of_refused checked within refused
    exact removed failed
  · -- The page of the first address is checked as if a byte of it were to be printed.
    obtain ⟨bad, failed⟩ := Memory.userCheck_of_refused (.inl low)
      (show 0 < (1 : Word).toNat by decide) (by simpa using refused)
    rw [← Memory.userCheck_zero_of_unaligned unaligned low, ← empty] at failed
    exact removed failed
  · have overlooks : kernel.memory.Overlooks space (.present ||| .user) words.first words.second :=
      settled.memory.overlooks inside positive high
    refine settled.printed user owns request ?_
    rw [Console.write_nil]
    exact writeConsole_of_unreadable savedOwns savedHeld overlooks.accepted overlooks.unreadable

end Request

/--
A request to print a range of user memory prints it, or is the end of the caller, whatever the
range. There are two exceptions to "readable bytes are printed, others end the caller": of an empty
range that starts within a page, that page must be readable; and ranges on the last page of all
addresses are answered with an error.
-/
theorem printsOrEnds_after (config : Config) (events : List KernelEvent) (frame : TrapFrame)
    (address : Address) (owner : Slot) (words : Arguments) (user : frame.fromUser = true)
    (owns : (after config events).current = some owner)
    (request : frame.Requests .writeConsole words) :
    ∃ space, ((after config events).envAt owner).space = some space ∧
      (after config events).PrintsOrEnds owner space frame words.first words.second
        ((after config events).trap frame address) := by
  -- Whoever owns the processor in a settled kernel has a space.
  have settled := settled_after config events
  obtain ⟨space, held, -⟩ := settled.owns owner (settled.running owner owns).1
  exact ⟨space, held, settled.printsOrEnds user owns request held⟩

/-- An environment that asks for bytes beyond the end of its stack to be printed is destroyed. -/
theorem printsOrEnds_beyond_stack :
    let kernel := after { frames := 8 } [.create ⟨0, []⟩, .create ⟨0, []⟩, .reschedule]
    let frame :=
      Machine.called .initial .writeConsole { first := 0xeebfdffe, second := 3 }
    (frame.fromUser = true ∧ kernel.current = some (slotAt 1) ∧
      frame.Requests .writeConsole { first := 0xeebfdffe, second := 3 }) ∧
      kernel.Removes (slotAt 1) (kernel.trap frame 0) := by
  have user : (Machine.called .initial .writeConsole
      { first := 0xeebfdffe, second := 3 }).fromUser = true := by decide
  have owns : (after { frames := 8 } [.create ⟨0, []⟩, .create ⟨0, []⟩, .reschedule]).current =
      some (slotAt 1) := by decide +kernel
  have request := Machine.requests_called .initial .writeConsole
    { first := 0xeebfdffe, second := 3 }
  refine ⟨⟨user, owns, request⟩, ?_⟩
  obtain ⟨space, held, prints⟩ := printsOrEnds_after { frames := 8 }
    [.create ⟨0, []⟩, .create ⟨0, []⟩, .reschedule] _ 0 _ _ user owns request
  have second : ((after { frames := 8 } [.create ⟨0, []⟩, .create ⟨0, []⟩,
      .reschedule]).envAt (slotAt 1)).space = some ⟨1⟩ := by decide +kernel
  rw [second, Option.some.injEq] at held
  subst held
  -- The third byte is the first one past the stack, where nothing is mapped.
  refine prints.ended (.inl (by decide)) 2 (by decide) ?_
  rintro ⟨-, entry, found, -⟩
  have guard : (after { frames := 8 } [.create ⟨0, []⟩, .create ⟨0, []⟩,
      .reschedule]).memory.entryAt? ⟨1⟩ 0xeebfe000 = none := by decide +kernel
  exact absurd (guard.symm.trans found) (by simp)

end Kernel

end Exokernel
