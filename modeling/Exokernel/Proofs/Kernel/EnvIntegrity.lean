import Exokernel.Proofs.Kernel.Runs

/-! Slots, ids, address spaces and the processor stay in step between kernel entries. -/

namespace Exokernel

/-- A small positive word is positive as a signed number too. -/
theorem toInt_toInt32_pos {word : Word} (positive : 0 < word.toNat)
    (small : word.toNat < 2147483648) : 0 < word.toInt32.toInt := by
  -- Without the sign bit both readings of the word agree.
  have signed : word.toBitVec.toInt = word.toBitVec.toNat :=
    BitVec.toInt_eq_toNat_of_lt (by
      show 2 * word.toNat < 2 ^ 32
      omega)
  show 0 < word.toBitVec.toInt
  rw [signed]
  exact Int.natCast_pos.mpr positive

namespace Kernel

/-- The environment table and everything that it is coupled with are in order. -/
structure EnvIntegrity (kernel : Kernel) : Prop where
  /-- A slot is free and listed once, or holds an environment that can run or cannot. -/
  slots : ∀ slot,
    (kernel.envAt slot).status = .free ∧ kernel.envs.free.count slot = 1 ∨
      ((kernel.envAt slot).status = .runnable ∨ (kernel.envAt slot).status = .notRunnable) ∧
        slot ∉ kernel.envs.free
  /-- A free slot has no space, no fault entry point and an empty mailbox. -/
  vacant : ∀ slot, (kernel.envAt slot).status = .free → (kernel.envAt slot).space = none ∧
    (kernel.envAt slot).faultEntry = none ∧ (kernel.envAt slot).mailbox = {}
  /-- The id of an environment points to its slot and reads as a positive signed number. -/
  named : ∀ slot, (kernel.envAt slot).isLive = true → (kernel.envAt slot).id.slot = slot ∧
    0 < (kernel.envAt slot).id.raw.toInt32.toInt
  /-- No two environments have the same id. -/
  unique : ∀ slot other, (kernel.envAt slot).isLive = true →
    (kernel.envAt other).isLive = true → (kernel.envAt slot).id = (kernel.envAt other).id →
    slot = other
  /-- No environment has the id by which every environment names itself. -/
  not_self : ∀ slot, (kernel.envAt slot).isLive = true → (kernel.envAt slot).id ≠ .self
  /-- Every environment has one of the spaces that exist, and each belongs to one of them. -/
  spaces : Set.BijOn (fun slot => (kernel.envAt slot).space)
    { slot | (kernel.envAt slot).isLive = true }
    (some '' { space | (kernel.memory.table? space).isSome = true })
  /-- The owner of the processor can run, was dispatched last, and has its space in use. -/
  running : ∀ slot, kernel.current = some slot → (kernel.envAt slot).status = .runnable ∧
    kernel.lastRun = some slot ∧
      ∃ space, (kernel.envAt slot).space = some space ∧ kernel.memory.active = some space
  /-- Without an owner of the processor no space is in use. -/
  idle : kernel.current = none → kernel.memory.active = none

/-- In a settled kernel the environment table is in order. -/
theorem Settled.envIntegrity {kernel : Kernel} (settled : kernel.Settled) :
    kernel.EnvIntegrity where
  slots slot := by
    -- The free list names each free slot once, and no other.
    have listed := settled.envs.mem_free slot
    by_cases free : (kernel.envAt slot).status = .free
    · exact .inl ⟨free, List.count_eq_one_of_mem settled.envs.free_nodup (listed.mpr free)⟩
    · have live : (kernel.envAt slot).isLive = true := by simpa [Env.isLive] using free
      exact .inr ⟨settled.envs.status_cases live, fun member => free (listed.mp member)⟩
  vacant := settled.envs.vacant
  named slot live := by
    obtain ⟨same, positive, small⟩ := settled.envs.named slot live
    exact ⟨same, toInt_toInt32_pos positive small⟩
  unique slot other live otherLive := settled.envs.id_injective live otherLive
  not_self slot live self := by
    -- The id that stands for the caller is zero, and ids are positive.
    obtain ⟨-, positive, -⟩ := settled.envs.named slot live
    rw [← envAt, self] at positive
    exact absurd positive (by decide)
  spaces := by
    -- The map from environments to spaces is into, one to one and onto.
    refine ⟨fun slot live => ?_, fun slot live other _ same => ?_, ?_⟩
    · obtain ⟨space, held, exists_⟩ := settled.owns slot live
      exact ⟨space, exists_, held.symm⟩
    · obtain ⟨space, held, -⟩ := settled.owns slot live
      exact settled.distinct slot other space held (same.symm.trans held)
    · rintro _ ⟨space, exists_, rfl⟩
      obtain ⟨slot, held⟩ := settled.owned space exists_
      exact ⟨slot, settled.toConsistent.isLive_of_space held, held⟩
  running slot current := by
    obtain ⟨live, last, used⟩ := settled.running slot current
    obtain ⟨space, held, -⟩ := settled.owns slot live
    exact ⟨by simpa [Env.isRunnable] using settled.ready slot current, last, space, held,
      used.trans held⟩
  idle := settled.idle

/-- In every state of the kernel the environment table is in order. -/
theorem envIntegrity_after (config : Config) (events : List KernelEvent) :
    (after config events).EnvIntegrity :=
  (settled_after config events).envIntegrity

end Kernel

end Exokernel
