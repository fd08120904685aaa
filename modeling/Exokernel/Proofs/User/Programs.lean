import Exokernel.User.Faults
import Mathlib

/-! What it takes for a program of user code to end, part by part. -/

namespace Exokernel.Program

variable {η σ α β : Type} {reply : (request : Request η) → σ → Option (request.Answer × σ)}
  {before after : σ}

/-- A program ends with a result when its requests are answered in a certain way. -/
def Ends (reply : (request : Request η) → σ → Option (request.Answer × σ))
    (program : Program η α) (before : σ) (result : Except UserError α) (after : σ) : Prop :=
  program.run.run reply before = some (result, after)

/-- A program ends in one way only. -/
theorem Ends.unique {program : Program η α} {first last : σ} {one other : Except UserError α}
    (ends : Ends reply program before one first) (again : Ends reply program before other last) :
    one = other ∧ first = last := by
  -- Running a program is a function, so that both ends are its value.
  have same := ends.symm.trans again
  rwa [Option.some.injEq, Prod.mk.injEq] at same

/-- A program that does nothing ends at once, with its value. -/
theorem ends_pure {value : α} {result : Except UserError α} :
    Ends reply (pure value) before result after ↔ result = .ok value ∧ after = before := by
  -- No request is made, and the run is only its result.
  show some (Except.ok value, before) = some (result, after) ↔ _
  simp only [Option.some.injEq, Prod.mk.injEq]
  exact ⟨fun ⟨same, kept⟩ => ⟨same.symm, kept.symm⟩, fun ⟨same, kept⟩ => ⟨same.symm, kept.symm⟩⟩

/-- A program that fails ends at once, with its failure. -/
theorem ends_throw {failure : UserError} {result : Except UserError α} :
    Ends reply (throw failure) before result after ↔
      result = .error failure ∧ after = before := by
  -- No request is made, and the run is only its result.
  show some (Except.error failure, before) = some (result, after) ↔ _
  simp only [Option.some.injEq, Prod.mk.injEq]
  exact ⟨fun ⟨same, kept⟩ => ⟨same.symm, kept.symm⟩, fun ⟨same, kept⟩ => ⟨same.symm, kept.symm⟩⟩

/-- A sequence ends where its second part does, or fails where its first part does. -/
theorem ends_bind_iff {program : Program η α} {next : α → Program η β}
    {result : Except UserError β} :
    Ends reply (program >>= next) before result after ↔
      (∃ first middle, Ends reply program before (.ok first) middle ∧
        Ends reply (next first) middle result after) ∨
      ∃ failure, result = .error failure ∧ Ends reply program before (.error failure) after := by
  -- Without an outcome of the first part there is none at all, and a failure skips the second.
  simp only [Ends, ExceptT.run_bind, UserCode.run_bind]
  cases done : program.run.run reply before with
  | none => simp
  | some outcome =>
    obtain ⟨given, middle⟩ := outcome
    cases given with
    | ok first => simp
    | error failure =>
      have stopped : ((pure (.error failure) : UserCode η (Except UserError β)).run reply middle) =
          some (.error failure, middle) := rfl
      simp only [Option.bind_some, stopped, Option.some.injEq, Prod.mk.injEq]
      constructor
      · rintro ⟨rfl, rfl⟩
        exact .inr ⟨failure, rfl, rfl, rfl⟩
      · rintro (⟨first, other, ⟨same, -⟩, -⟩ | ⟨cause, rfl, same, rfl⟩)
        · simp at same
        · rw [Except.error.injEq] at same
          exact ⟨congrArg Except.error same, rfl⟩

/-- A sequence ends well if its first part does, and then its second part. -/
theorem ends_bind {program : Program η α} {next : α → Program η β} {value : β} :
    Ends reply (program >>= next) before (.ok value) after ↔ ∃ first middle,
      Ends reply program before (.ok first) middle ∧
        Ends reply (next first) middle (.ok value) after := by
  -- A failure of the first part would be the end of the sequence.
  simp [ends_bind_iff]

/-- Once it is known that the first part of a sequence ends well, the second part decides. -/
theorem Ends.bind_iff {program : Program η α} {next : α → Program η β} {value : α} {middle : σ}
    {result : Except UserError β} (first : Ends reply program before (.ok value) middle) :
    Ends reply (program >>= next) before result after ↔
      Ends reply (next value) middle result after := by
  rw [ends_bind_iff]
  constructor
  · -- A program ends in one way only, and the first part is known to end well.
    rintro (⟨given, last, done, rest⟩ | ⟨failure, -, failed⟩)
    · obtain ⟨same, rfl⟩ := done.unique first
      rw [Except.ok.injEq] at same
      exact same ▸ rest
    · have impossible := (failed.unique first).1
      simp at impossible
  · exact fun rest => .inl ⟨value, middle, first, rest⟩

/-- A sequence fails where its first part does. -/
theorem Ends.bind_error_iff {program : Program η α} {next : α → Program η β} {failure : UserError}
    {middle : σ} {result : Except UserError β}
    (first : Ends reply program before (.error failure) middle) :
    Ends reply (program >>= next) before result after ↔
      result = .error failure ∧ after = middle := by
  rw [ends_bind_iff]
  -- The first part has one ending only, and it is the failure.
  constructor
  · rintro (⟨given, last, done, -⟩ | ⟨cause, rfl, failed⟩)
    · have impossible := (done.unique first).1
      simp at impossible
    · obtain ⟨same, rfl⟩ := failed.unique first
      rw [Except.error.injEq] at same
      exact ⟨congrArg Except.error same, rfl⟩
  · rintro ⟨rfl, rfl⟩
    exact .inr ⟨failure, rfl, first⟩

/-- A program whose failures are caught ends well itself, or where the rescue does. -/
theorem ends_tryCatch_iff {program : Program η α} {rescue : UserError → Program η α}
    {result : Except UserError α} :
    Ends reply (tryCatch program rescue) before result after ↔
      (∃ value, result = .ok value ∧ Ends reply program before (.ok value) after) ∨
      ∃ failure middle, Ends reply program before (.error failure) middle ∧
        Ends reply (rescue failure) middle result after := by
  -- Catching is a sequence in which the second part looks at failures only.
  have caught : (tryCatch program rescue).run = program.run >>= fun
      | .ok value => pure (.ok value)
      | .error failure => (rescue failure).run := by
    show program.run >>= _ = _
    congr 1
    funext result
    cases result <;> rfl
  simp only [Ends, caught, UserCode.run_bind]
  cases done : program.run.run reply before with
  | none => simp
  | some outcome =>
    obtain ⟨given, middle⟩ := outcome
    cases given with
    | error failure => simp
    | ok value =>
      have kept : ((pure (.ok value) : UserCode η (Except UserError α)).run reply middle) =
          some (.ok value, middle) := rfl
      simp only [Option.bind_some, kept, Option.some.injEq, Prod.mk.injEq]
      constructor
      · rintro ⟨rfl, rfl⟩
        exact .inl ⟨value, rfl, rfl, rfl⟩
      · rintro (⟨given, rfl, same, rfl⟩ | ⟨failure, other, ⟨same, -⟩, -⟩)
        · exact ⟨same, rfl⟩
        · simp at same

/-- A program whose failures are caught by one that fails as well has to end well itself. -/
theorem ends_tryCatch {program : Program η α} {rescue : UserError → Program η α} {value : α}
    (hopeless : ∀ failure middle, ¬Ends reply (rescue failure) middle (.ok value) after) :
    Ends reply (tryCatch program rescue) before (.ok value) after ↔
      Ends reply program before (.ok value) after := by
  -- The rescue cannot lead to a good end, so that it was not needed.
  simp [ends_tryCatch_iff, hopeless]

/-- A request ends with its answer, and never fails. -/
theorem ends_ask_iff {request : Request η} {result : Except UserError request.Answer} :
    Ends reply (ask request) before result after ↔
      ∃ answer, result = .ok answer ∧ reply request before = some (answer, after) := by
  -- A lifted request gives its answer as a value.
  have lifted : (ask request).run = UserCode.ask request fun answer => pure (.ok answer) := rfl
  simp only [Ends, lifted, UserCode.run]
  cases replied : reply request before with
  | none => simp
  | some outcome =>
    obtain ⟨given, middle⟩ := outcome
    have kept : ((pure (.ok given) : UserCode η (Except UserError _)).run reply middle) =
        some (.ok given, middle) := rfl
    simp only [kept, Option.some.injEq, Prod.mk.injEq]
    constructor
    · rintro ⟨rfl, rfl⟩
      exact ⟨given, rfl, rfl, rfl⟩
    · rintro ⟨_, rfl, rfl, rfl⟩
      exact ⟨rfl, rfl⟩

/-- A request ends with its answer. -/
theorem ends_ask {request : Request η} {answer : request.Answer} :
    Ends reply (ask request) before (.ok answer) after ↔
      reply request before = some (answer, after) := by
  -- A request by itself is answered, and does not fail.
  simp [ends_ask_iff]

/-- The answer to a request, and the state after it, are those of its reply. -/
theorem ends_asked {request : Request η} {given answer : request.Answer} {state : σ}
    (replied : reply request before = some (given, state))
    (ends : Ends reply (ask request) before (.ok answer) after) :
    given = answer ∧ state = after := by
  -- A reply is a function of the request and the state.
  have outcome := replied.symm.trans (ends_ask.mp ends)
  rwa [Option.some.injEq, Prod.mk.injEq] at outcome

/-- An access ends as it is answered. -/
theorem ends_access {use : Access} {result : Except UserError (List UInt8)} :
    Ends reply (ExceptT.mk (UserCode.perform (.access use))) before result after ↔
      reply (.access use) before = some (result, after) := by
  -- An access has a result of its own, which is the result of the program.
  have run : (ExceptT.mk (UserCode.perform (.access use)) : Program η _).run =
      UserCode.ask (.access use) fun answer => pure answer := rfl
  simp only [Ends, run, UserCode.run]
  cases replied : reply (.access use) before with
  | none => simp
  | some outcome =>
    obtain ⟨given, last⟩ := outcome
    have kept : ((pure given : UserCode η (Except UserError (List UInt8))).run reply last) =
        some (given, last) := rfl
    simp [kept]

/-- A load ends as its access is answered. -/
theorem ends_load {va : Address} {length : Nat} {result : Except UserError (List UInt8)} :
    Ends reply (load va length) before result after ↔
      reply (.access (.load va length)) before = some (result, after) :=
  ends_access

/-- A store ends well if its access does. -/
theorem ends_store {va : Address} {data : List UInt8} :
    Ends reply (store va data) before (.ok ()) after ↔ ∃ bytes,
      reply (.access (.store va data)) before = some (.ok bytes, after) := by
  -- A store is an access whose bytes are thrown away.
  have parts : (store va data : Program η Unit) =
      (ExceptT.mk (UserCode.perform (.access (.store va data))) : Program η (List UInt8)) >>=
        fun _ => pure () := rfl
  simp only [parts, ends_bind, ends_pure, ends_access]
  constructor
  · rintro ⟨bytes, middle, replied, -, rfl⟩
    exact ⟨bytes, replied⟩
  · rintro ⟨bytes, replied⟩
    exact ⟨bytes, after, replied, trivial, rfl⟩

/-- A system call ends well if the kernel answers it, and not with an error. -/
theorem ends_call {call : Syscall} {words : Arguments} {word : Word} :
    Ends reply (Program.call call words) before (.ok word) after ↔
      reply (.syscall call words) before = some (.ok word, after) ∧
        SysError.ofWord? word = none := by
  -- An answer is a failure if the processor was lost, or if the word means an error.
  simp only [Program.call, ends_bind]
  constructor
  · rintro ⟨answer, middle, asked, rest⟩
    have replied := ends_ask.mp asked
    cases answer with
    | error trapped => simp [ends_throw] at rest
    | ok given =>
      dsimp only at rest
      cases meaning : SysError.ofWord? given with
      | some error => simp [meaning, ends_throw] at rest
      | none =>
        simp only [meaning, ends_pure, Except.ok.injEq] at rest
        obtain ⟨rfl, rfl⟩ := rest
        exact ⟨replied, meaning⟩
  · rintro ⟨replied, meaning⟩
    refine ⟨.ok word, after, ends_ask.mpr replied, ?_⟩
    simp [meaning, ends_pure]

/-- A call makes one request, however it is answered. -/
theorem asked_of_ends_call {call : Syscall} {words : Arguments} {result : Except UserError Word}
    (ends : Ends reply (Program.call call words) before result after) :
    ∃ answer, reply (.syscall call words) before = some (answer, after) := by
  -- After the answer the program only reads it, and a request itself does not fail.
  rcases ends_bind_iff.mp ends with ⟨answer, middle, asked, rest⟩ | ⟨failure, -, asked⟩
  · have stopped : after = middle := by
      cases answer with
      | error trapped => exact (ends_throw.mp rest).2
      | ok word =>
        dsimp only at rest
        split at rest
        · exact (ends_throw.mp rest).2
        · exact (ends_pure.mp rest).2
    exact ⟨answer, stopped ▸ ends_ask.mp asked⟩
  · obtain ⟨answer, impossible, -⟩ := ends_ask_iff.mp asked
    simp at impossible

/-- A command makes one request, however it is answered. -/
theorem asked_of_ends_command {call : Syscall} {words : Arguments} {result : Except UserError Unit}
    (ends : Ends reply (command call words) before result after) :
    ∃ answer, reply (.syscall call words) before = some (answer, after) := by
  -- Its word is thrown away, if there is one.
  rcases ends_bind_iff.mp ends with ⟨word, middle, called, rest⟩ | ⟨failure, -, called⟩
  · obtain ⟨-, rfl⟩ := ends_pure.mp rest
    exact asked_of_ends_call called
  · exact asked_of_ends_call called

/-- A command ends well if its call is answered without an error. -/
theorem ends_command {call : Syscall} {words : Arguments} :
    Ends reply (command call words) before (.ok ()) after ↔ ∃ word,
      reply (.syscall call words) before = some (.ok word, after) ∧
        SysError.ofWord? word = none := by
  -- A command is a call whose value is thrown away.
  simp only [command, ends_bind, ends_call, ends_pure]
  constructor
  · rintro ⟨word, middle, answered, -, rfl⟩
    exact ⟨word, answered⟩
  · rintro ⟨word, answered⟩
    exact ⟨word, after, answered, trivial, rfl⟩

/-- Ending the environment is no good end. -/
theorem not_ends_exit (failure : UserError) : ¬Ends reply (exit failure) before (.ok ()) after := by
  -- Its last step is to fail.
  simp only [exit, ends_bind, ends_throw]
  rintro ⟨-, -, -, failed, -⟩
  simp at failed

/-- A step that is taken for each element of a list keeps what every single step keeps. -/
theorem ends_forM (Keeps : σ → Prop) {step : α → Program η Unit} {elements : List α}
    (keeps : ∀ element ∈ elements, ∀ before after,
      Ends reply (step element) before (.ok ()) after → Keeps before → Keeps after)
    (ends : Ends reply (elements.forM step) before (.ok ()) after) (begun : Keeps before) :
    Keeps after := by
  -- Induct on the list: the first element is done, and the rest begins where it ended.
  induction elements generalizing before with
  | nil =>
    have stopped : Ends reply (pure () : Program η Unit) before (.ok ()) after := ends
    obtain ⟨-, rfl⟩ := ends_pure.mp stopped
    exact begun
  | cons element rest ih =>
    have parts : Ends reply (step element >>= fun _ => rest.forM step) before (.ok ()) after := ends
    obtain ⟨⟨⟩, middle, done, later⟩ := ends_bind.mp parts
    refine ih (fun other member => keeps other (List.mem_cons_of_mem element member)) later ?_
    exact keeps element List.mem_cons_self before middle done begun

/-- What holds if a program ended well, and what holds if it failed. -/
def Outcome (good : α → Prop) (failed : Prop) : Except UserError α → Prop
  | .ok value => good value
  | .error _ => failed

/--
A step that is taken for each element of a list either fails on the way, or has been taken for all
of them.
-/
theorem ends_forM_iterated (Keeps : List α → σ → Prop) (Fails : σ → Prop)
    {step : α → Program η Unit} {taken elements : List α} {result : Except UserError Unit}
    (takes : ∀ taken, ∀ element ∈ elements, ∀ before result after, Keeps taken before →
      Ends reply (step element) before result after →
        Outcome (fun () => Keeps (taken ++ [element]) after) (Fails after) result)
    (begun : Keeps taken before) (ends : Ends reply (elements.forM step) before result after) :
    Outcome (fun () => Keeps (taken ++ elements) after) (Fails after) result := by
  -- Induct on the elements that are left, which are taken behind those before.
  induction elements generalizing taken before with
  | nil =>
    have stopped : Ends reply (pure () : Program η Unit) before result after := ends
    obtain ⟨rfl, rfl⟩ := ends_pure.mp stopped
    simpa only [Outcome, List.append_nil] using begun
  | cons element rest ih =>
    have parts : Ends reply (step element >>= fun _ => rest.forM step) before result after := ends
    rcases ends_bind_iff.mp parts with ⟨⟨⟩, middle, done, later⟩ | ⟨failure, rfl, failed⟩
    · have once := takes taken element List.mem_cons_self before _ middle begun done
      have all := ih (fun taken other member => takes taken other
        (List.mem_cons_of_mem element member)) once later
      rwa [List.append_assoc, List.singleton_append] at all
    · exact takes taken element List.mem_cons_self before _ after begun failed

end Exokernel.Program
