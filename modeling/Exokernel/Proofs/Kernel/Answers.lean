import Exokernel.Proofs.Kernel.Refusals

/-! What the handlers of the system calls come to, before it is put into a register. -/

namespace Exokernel

namespace Kernel

variable {kernel : Kernel} {owner : Slot} {call : Syscall} {words : Arguments} {value : Word}

/-- What writing to the console comes to, unless it ends the caller. -/
def writeResult? (kernel : Kernel) (va length : Word) : Option (Except SysError Word) :=
  -- A caller that is destroyed gets no answer.
  match kernel.callerSpace with
  | .error error => some (.error error)
  | .ok (slot, space) =>
    match kernel.memory.userCheck space va length (.present ||| .user) with
    | .error _ =>
      match (kernel.destroyEnv slot).1 with
      | .leave _ => none
      | .stay () => some (.error .fault)
    | .ok () =>
      match kernel.memory.copyIn space va length.toNat with
      | .error _ => some (.error .fault)
      | .ok _ => some (.ok 0)

/-- What destroying an environment comes to, unless it ends the caller. -/
def destroyResult? (kernel : Kernel) (target : EnvId) : Option (Except SysError Word) :=
  -- Whoever destroys itself gets no answer; whoever destroys a child does.
  match kernel.findOwned target with
  | .error error => some (.error error)
  | .ok slot =>
    match (kernel.destroyEnv slot).1 with
    | .leave _ => none
    | .stay () => some (.ok 0)

/--
What a system call comes to, a value or an error, unless the processor is given away.

A call that has nothing to say but that it succeeded has the value zero.
-/
def result? (kernel : Kernel) (call : Syscall) (words : Arguments) :
    Option (Except SysError Word) :=
  -- Only three of them may give the processor away.
  match call with
  | .writeConsole => kernel.writeResult? words.first words.second
  | .readConsole => some (.ok kernel.readConsole.1)
  | .currentEnv => some (kernel.owner.map fun slot => (kernel.envAt slot).id.raw)
  | .destroyEnv => kernel.destroyResult? ⟨words.first⟩
  | .yield => none
  | .fork => some kernel.fork.1
  | .setStatus => some ((kernel.setStatus ⟨words.first⟩ words.second).1.map fun () => 0)
  | .allocPage => some ((kernel.allocPage (.ofArguments words)).1.map fun () => 0)
  | .mapPage => some ((kernel.mapPage (.ofArguments words)).1.map fun () => 0)
  | .unmapPage => some ((kernel.unmapPage (.ofArguments words)).1.map fun () => 0)
  | .setFaultEntry => some ((kernel.setFaultEntry ⟨words.first⟩ words.second).1.map fun () => 0)
  | .receive => some ((kernel.receive words.first).1.map fun () => 0)
  | .trySend => some (kernel.trySend (.ofArguments words)).1
  | .time => some (.ok kernel.clock.milliseconds)

/-- How a system call ends, by what it comes to. -/
def Encodes (outcome : Control Word × Kernel) : Option (Except SysError Word) → Prop
  | some result => outcome.1 = .stay (SysError.encodeResult result)
  | none => ∃ decision, outcome.1 = .leave decision

/-- The word that answers a call is the encoding of what the call came to. -/
theorem Encodes.stay {acted : Kernel} {came : Option (Except SysError Word)}
    (encodes : Encodes (.stay value, acted) came) :
    ∃ result, came = some result ∧ value = SysError.encodeResult result := by
  -- A call that stays has come to something.
  cases came with
  | none => simp [Encodes] at encodes
  | some result => exact ⟨result, rfl, Control.stay.inj encodes⟩

/-- A call that gives the processor away has come to nothing. -/
theorem Encodes.leave {acted : Kernel} {came : Option (Except SysError Word)}
    {decision : Dispatch} (encodes : Encodes (.leave decision, acted) came) : came = none := by
  -- A result would mean that the caller goes on.
  cases came with
  | none => rfl
  | some result => simp [Encodes] at encodes

/-- The answer to a destruction is there exactly if its caller is. -/
theorem encodes_answerDestroy (outcome : Control Unit × Kernel) (result : Except SysError Word) :
    Encodes (answerDestroy outcome (SysError.encodeResult result))
      (match outcome.1 with
        | .leave _ => none
        | .stay () => some result) := by
  -- The destruction leaves its caller with the processor, or without it.
  obtain ⟨control, next⟩ := outcome
  cases control with
  | stay => rfl
  | leave decision => exact ⟨decision, rfl⟩

/-- The answer of a call with a value encodes it. -/
theorem encodes_answer (outcome : Except SysError Word × Kernel) :
    Encodes (answer outcome) (some outcome.1) :=
  rfl

/-- The answer of a call without a value encodes success as zero. -/
theorem encodes_answerUnit (outcome : Except SysError Unit × Kernel) :
    Encodes (answerUnit outcome) (some (outcome.1.map fun () => 0)) :=
  rfl

/-- The answer to a write to the console encodes what the write came to. -/
theorem encodes_writeConsole (kernel : Kernel) (va length : Word) :
    Encodes (kernel.writeConsole va length) (kernel.writeResult? va length) := by
  -- Both sides ask for the caller, for its permissions and for its bytes, in this order.
  unfold writeConsole writeResult?
  cases kernel.callerSpace with
  | error error => rfl
  | ok caller =>
    dsimp only
    cases kernel.memory.userCheck caller.2 va length (.present ||| .user) with
    | error bad => exact encodes_answerDestroy _ (.error .fault)
    | ok =>
      dsimp only
      cases kernel.memory.copyIn caller.2 va length.toNat with
      | error bad => rfl
      | ok bytes => rfl

/-- The answer to a call for destruction encodes what the call came to. -/
theorem encodes_destroyCall (kernel : Kernel) (target : EnvId) :
    Encodes (kernel.destroyCall target) (kernel.destroyResult? target) := by
  -- An id that is refused is answered; otherwise the destruction decides.
  unfold destroyCall destroyResult?
  cases kernel.findOwned target with
  | error error => rfl
  | ok slot => exact encodes_answerDestroy _ (.ok 0)

/-- A caller that goes on finds in its register what the call came to. -/
theorem encodes_perform (kernel : Kernel) (call : Syscall) (words : Arguments) :
    Encodes (kernel.perform call words) (kernel.result? call words) := by
  -- One case for each system call.
  cases call with
  | writeConsole => exact encodes_writeConsole _ _ _
  | readConsole => rfl
  | currentEnv => exact encodes_answer _
  | destroyEnv => exact encodes_destroyCall _ _
  | yield => exact ⟨kernel.yield.1, by simp only [perform]⟩
  | fork => exact encodes_answer _
  | trySend => exact encodes_answer _
  | time => rfl
  | _ => exact encodes_answerUnit _

/-- A call without a value gives a word that is no error. -/
theorem value_lt_of_map {result : Except SysError Unit}
    (done : result.map (fun () => 0) = .ok value) : value.toNat < 2147483648 := by
  -- The word is zero.
  cases result with
  | ok =>
    obtain rfl : (0 : Word) = value := Except.ok.inj done
    decide
  | error error => simp [Except.map] at done

/-- So does a write to the console. -/
theorem value_lt_of_writeResult {va length : Word}
    (came : kernel.writeResult? va length = some (.ok value)) : value.toNat < 2147483648 := by
  unfold writeResult? at came
  -- The only answer that is no error is zero.
  split at came
  · simp at came
  · split at came
    · split at came <;> simp at came
    · split at came
      · simp at came
      · rw [← Except.ok.inj (Option.some.inj came)]
        decide

/-- So does a call for destruction. -/
theorem value_lt_of_destroyResult {target : EnvId}
    (came : kernel.destroyResult? target = some (.ok value)) : value.toNat < 2147483648 := by
  unfold destroyResult? at came
  -- The only answer that is no error is zero.
  split at came
  · simp at came
  · split at came
    · simp at came
    · rw [← Except.ok.inj (Option.some.inj came)]
      decide

/-- Every value but a time is small enough not to read as an error. -/
theorem Consistent.value_lt (consistent : kernel.Consistent) (owns : kernel.current = some owner)
    (came : kernel.result? call words = some (.ok value)) (timeless : call ≠ .time) :
    value.toNat < 2147483648 := by
  -- One case for each system call; most of them have the value zero.
  cases call with
  | writeConsole => exact value_lt_of_writeResult came
  | readConsole =>
    rw [← Except.ok.inj (Option.some.inj came)]
    exact kernel.readConsole_result_lt
  | currentEnv =>
    simp only [result?, Kernel.owner, owns] at came
    rw [← Except.ok.inj (Option.some.inj came)]
    exact (consistent.envs.named owner (consistent.running owner owns).1).2.2
  | destroyEnv => exact value_lt_of_destroyResult came
  | yield => simp [result?] at came
  | fork => exact fork_result_lt (Option.some.inj came)
  | trySend => exact trySend_result_lt (Option.some.inj came)
  | time => exact absurd rfl timeless
  | _ => exact value_lt_of_map (Option.some.inj came)

end Kernel

/-- The time is the ticks since boot times their length, as far as a register holds it. -/
theorem Clock.toNat_milliseconds (clock : Clock) : clock.milliseconds.toNat =
    clock.ticks.toNat * clock.period.toNat % 2 ^ 32 := by
  -- The product is taken in words of the width of the register.
  simp [milliseconds]

end Exokernel
