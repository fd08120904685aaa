import Exokernel.Proofs.User.Resumption
import Exokernel.Proofs.User.Wrappers
import Exokernel.User.Script

/-! A script answers a program in order, and records all that the program asks. -/

namespace Exokernel

namespace Script

variable {script before middle after : Script}

/-- More was asked: the record has grown at its end, and answers were taken from their front. -/
structure Continues (before after : Script) : Prop where
  /-- What was recorded stays recorded. -/
  calls : before.calls.toList <+: after.calls.toList
  /-- The results that are left are the last ones. -/
  results : after.results <:+ before.results
  /-- So are the bytes for loads. -/
  loads : after.loads <:+ before.loads
  /-- So are the outcomes of stores. -/
  stores : after.stores <:+ before.stores
  /-- What programs may only look at is as it was. -/
  views : after.pageEntries = before.pageEntries ∧ after.tableEntries = before.tableEntries ∧
    after.info = before.info

/-- Nothing more may have been asked. -/
theorem Continues.refl (script : Script) : script.Continues script :=
  ⟨List.prefix_refl _, List.suffix_refl _, List.suffix_refl _, List.suffix_refl _, rfl, rfl, rfl⟩

/-- What was asked later comes behind what was asked before. -/
theorem Continues.trans (first : before.Continues middle) (rest : middle.Continues after) :
    before.Continues after where
  calls := first.calls.trans rest.calls
  results := rest.results.trans first.results
  loads := rest.loads.trans first.loads
  stores := rest.stores.trans first.stores
  views := ⟨rest.views.1.trans first.views.1, rest.views.2.1.trans first.views.2.1,
    rest.views.2.2.trans first.views.2.2⟩

/-- A note goes to the end of the record. -/
theorem continues_note (script : Script) (call : RecordedCall) :
    script.Continues (script.note call) :=
  { Continues.refl script with
    calls := by
      -- Outcomes that are left stay.
      rw [note, Array.toList_push]
      exact List.prefix_append _ _ }

/-- A system call is recorded, and takes one result if any are left. -/
theorem continues_syscall (script : Script) (call : Syscall) (words : Arguments) :
    script.Continues (script.syscall call words).2 := by
  have noted := script.continues_note (.syscall call words)
  simp only [syscall]
  split
  · exact noted
  · -- The result was the first of those that were left.
    rename_i result rest left
    exact { noted with results := ⟨[result], left.symm.trans rfl⟩ }

/-- A load is recorded, and takes one outcome if any are left. -/
theorem continues_load (script : Script) (va : Address) (length : Nat) :
    script.Continues (script.load va length).2 := by
  -- Without outcomes left the load is only recorded.
  have noted := script.continues_note (.load va length)
  simp only [load]
  split
  · exact noted
  · rename_i outcome rest left
    exact { noted with loads := ⟨[outcome], left.symm.trans rfl⟩ }

/-- A store is recorded, and takes one outcome if any are left. -/
theorem continues_store (script : Script) (va : Address) (data : List UInt8) :
    script.Continues (script.store va data).2 := by
  -- Without outcomes left the store is only recorded.
  have noted := script.continues_note (.store va data)
  simp only [store]
  split
  · exact noted
  · rename_i outcome rest left
    exact { noted with stores := ⟨[outcome], left.symm.trans rfl⟩ }

/-- Whatever a program asks of a script, the script goes on from where it was. -/
theorem keeps_continues (start : Script) : Cpu.Keeps start.Continues where
  syscall script call words continues := continues.trans (script.continues_syscall call words)
  access script use continues := by
    cases use with
    | load va length => exact continues.trans (script.continues_load va length)
    | store va data => exact continues.trans (script.continues_store va data)
  setContext script context continues :=
    -- The registers are no part of what is recorded, but that they were set is.
    continues.trans { script.continues_note (.setContext context) with }

/-- Bytes are made up to a length, or cut to it. -/
theorem length_fitted (bytes : List UInt8) (length : Nat) :
    (fitted bytes length).length = length := by
  -- What is missing is made up with zeros, and none is missing if bytes are cut off.
  simp only [fitted, List.length_append, List.length_take, List.length_replicate]
  omega

/-- Like a machine, a script gives as many bytes as a load asks for. -/
theorem length_of_load {va : Address} {length : Nat} {bytes : List UInt8}
    (loaded : (script.load va length).1 = .ok bytes) : bytes.length = length := by
  -- Bytes of an outcome are fitted to the length that is asked for.
  simp only [load] at loaded
  split at loaded
  · rw [← Except.ok.inj loaded, length_fitted]
  · rename_i outcome rest left
    cases outcome with
    | error trapped => simp [Except.map] at loaded
    | ok given =>
      rw [← Except.ok.inj loaded, length_fitted]

end Script

namespace Program

variable {η α : Type} {handlers : Handlers η} {attempts : Nat} {library : LibraryState η}
  {script : Script}

/--
Whatever a program asks is recorded behind what was asked before, and answered with what the script
has left. This includes what is asked by handlers of its faults.
-/
theorem continues_execute {program : Program η α} {result : Except UserError α}
    {last : UserState η Script}
    (ends : program.execute handlers attempts ⟨library, script⟩ = some (result, last)) :
    script.Continues last.cpu :=
  script.keeps_continues.execute ends (.refl script)

/-- A wrapper asks for one system call and for nothing else. -/
theorem recorded_wrapper (wrapper : Wrapper α) : ∃ result last,
    wrapper.program.execute handlers attempts ⟨library, script⟩ = some (result, last) ∧
      last.cpu.calls = script.calls.push (.syscall wrapper.call wrapper.words) := by
  refine ⟨_, _, Wrapper.execute_program handlers attempts wrapper _, ?_⟩
  -- The script notes the call before it looks for a result.
  show (script.syscall wrapper.call wrapper.words).2.calls = _
  simp only [Script.syscall]
  split <;> rfl

end Program

end Exokernel
