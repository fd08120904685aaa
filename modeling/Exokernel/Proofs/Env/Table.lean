import Exokernel.Env.Table
import Mathlib

/-! The environment table keeps its free list and its ids in order. -/

namespace Exokernel

namespace EnvId

/-- A generation leaves the slot bits free. -/
theorem nextGeneration_mod (previous : EnvId) : previous.nextGeneration.toNat % 1024 = 0 := by
  simp only [nextGeneration]
  split
  · rfl
  · -- Rounding down takes away exactly the low bits.
    generalize previous.raw + 0x1000 = advanced
    have rounded : (advanced - advanced % 1024).toNat = advanced.toNat - advanced.toNat % 1024 := by
      rw [UInt32.toNat_sub_of_le _ _ (UInt32.le_iff_toNat_le.mpr (by simp [Nat.mod_le]))]
      simp
    omega

/-- A generation is a positive number when it is read as a signed word. -/
theorem nextGeneration_bounds (previous : EnvId) :
    0 < previous.nextGeneration.toNat ∧ previous.nextGeneration.toNat < 2147483648 := by
  -- A candidate that is zero or negative is passed over for the first generation.
  simp only [nextGeneration]
  split
  · decide
  · rename_i usable
    obtain ⟨nonzero, small⟩ := not_or.mp usable
    generalize (previous.raw + 0x1000 - (previous.raw + 0x1000) % 1024) = candidate at *
    have positive : candidate.toNat ≠ 0 := fun zero => nonzero (UInt32.toNat_inj.mp zero)
    have bounded := UInt32.lt_iff_toNat_lt.mp (UInt32.not_le.mp small)
    exact ⟨Nat.pos_of_ne_zero positive, bounded⟩

/-- The next id of a slot is the slot on top of the next generation. -/
theorem toNat_next (previous : EnvId) (slot : Slot) :
    (previous.next slot).raw.toNat = previous.nextGeneration.toNat + slot.val := by
  -- A generation has no slot bits, so setting them adds the slot.
  have small : slot.val < 2 ^ 10 := slot.isLt
  have bits := Nat.two_pow_add_eq_or_of_lt small (previous.nextGeneration.toNat / 1024)
  have aligned := previous.nextGeneration_mod
  have whole : 2 ^ 10 * (previous.nextGeneration.toNat / 1024) = previous.nextGeneration.toNat := by
    omega
  rw [whole] at bits
  rw [next, nextAt, UInt32.toNat_or, UInt32.toNat_ofNat', Nat.mod_eq_of_lt (by omega), ← bits]

/-- The next id of a slot points to that slot. -/
theorem slot_next (previous : EnvId) (slot : Slot) : (previous.next slot).slot = slot := by
  -- The slot is what is left of the id modulo the number of slots.
  have aligned := previous.nextGeneration_mod
  have inside : slot.val < 1024 := slot.isLt
  apply Fin.ext
  show (previous.next slot).raw.toNat % 1024 = slot.val
  rw [toNat_next]
  omega

/-- The next id of a slot reads as a positive number, so it is neither an error nor the own name. -/
theorem next_bounds (previous : EnvId) (slot : Slot) :
    0 < (previous.next slot).raw.toNat ∧ (previous.next slot).raw.toNat < 2147483648 := by
  -- The largest generation leaves room for every slot below the sign bit.
  have aligned := previous.nextGeneration_mod
  have bounds := previous.nextGeneration_bounds
  have inside : slot.val < 1024 := slot.isLt
  rw [toNat_next]
  omega

end EnvId

namespace EnvTable

/-- Every slot is either free and listed once, or holds an environment with an id of its own. -/
structure Sound (table : EnvTable) : Prop where
  /-- No slot is listed twice. -/
  free_nodup : table.free.Nodup
  /-- The list has the free slots and no others. -/
  mem_free : ∀ slot, slot ∈ table.free ↔ (table.get slot).status = .free
  /-- No environment is found half taken apart. -/
  not_dying : ∀ slot, (table.get slot).status ≠ .dying
  /-- Nothing of an environment is left in a free slot that the next one could inherit. -/
  vacant : ∀ slot, (table.get slot).status = .free →
    (table.get slot).space = none ∧ (table.get slot).faultEntry = none ∧
      (table.get slot).mailbox = {}
  /-- The id of an environment leads back to its slot, and reads as a positive number. -/
  named : ∀ slot, (table.get slot).isLive → (table.get slot).id.slot = slot ∧
    0 < (table.get slot).id.raw.toNat ∧ (table.get slot).id.raw.toNat < 2147483648

/-- What a slot holds after one slot was replaced. -/
theorem get_put (table : EnvTable) (slot other : Slot) (env : Env) :
    (table.put slot env).get other = if other = slot then env else table.get other := by
  -- A slot reads back what was put there, and other slots are not touched.
  split
  · rename_i same
    rw [same, get_put_same]
  · rename_i different
    exact get_put_other table env different

/-- What a slot holds after one slot was changed. -/
theorem get_modify (table : EnvTable) (slot other : Slot) (change : Env → Env) :
    (table.modify slot change).get other =
      if other = slot then change (table.get slot) else table.get other :=
  get_put table slot other _

/-- A table without environments has nothing in any slot. -/
theorem get_empty (slot : Slot) : empty.get slot = {} :=
  Vector.getElem_replicate slot.isLt

/-- A table without environments has all slots free, in order. -/
theorem free_empty : empty.free = List.finRange slotCount := by
  -- That is how the list is made.
  rw [empty]

/-- In a table without environments every slot is free. -/
theorem sound_empty : empty.Sound where
  free_nodup := by
    rw [free_empty]
    exact List.nodup_finRange slotCount
  mem_free slot := by
    -- The free list names every slot, and every slot is blank.
    rw [free_empty, get_empty]
    exact iff_of_true (List.mem_finRange slot) rfl
  not_dying slot := by simp [get_empty]
  vacant slot _ := by simp [get_empty]
  named slot live := by simp [get_empty, Env.isLive] at live

/-- An id that is found names the caller or a live environment. -/
theorem find_ok {table : EnvTable} {id : EnvId} {current : Option Slot} {slot : Slot}
    (found : table.find id current = .ok slot) : id.isSelf = true ∧ current = some slot ∨
      id.isSelf = false ∧ (table.get slot).isLive = true ∧ (table.get slot).id = id := by
  -- The alias for the caller is tried first; any other id has to match the slot it points to.
  simp only [find] at found
  split at found
  · rename_i self
    split at found <;> simp_all
  · rename_i other
    split at found
    · rename_i match_
      simp only [Bool.and_eq_true, beq_iff_eq, Except.ok.injEq] at match_ found
      subst found
      exact .inr ⟨by simpa using other, match_⟩
    · simp at found

/-- An id that the caller may change names the caller or one of its live children. -/
theorem findOwned_ok {table : EnvTable} {id : EnvId} {owner slot : Slot}
    (found : table.findOwned id (some owner) = .ok slot) : slot = owner ∨
      (table.get slot).isLive = true ∧ (table.get slot).parent = (table.get owner).id := by
  -- The id is looked up like any other, and the owner check then allows two cases.
  simp only [findOwned] at found
  split at found
  · rename_i target current named own
    simp only [Option.some.injEq] at own
    subst own
    split at found
    · rename_i allowed
      simp only [Except.ok.injEq] at found
      subst found
      rcases allowed with same | child
      · exact .inl same
      · -- Whoever is found under id zero is the caller itself.
        rcases find_ok named with ⟨-, self⟩ | ⟨-, live, -⟩
        · exact .inl (Option.some.inj self).symm
        · exact .inr ⟨live, child⟩
    · simp at found
  · simp at found

namespace Sound

variable {table : EnvTable} {slot : Slot}

/-- An environment is runnable or it is not; there is no third state. -/
theorem status_cases (sound : table.Sound) (live : (table.get slot).isLive) :
    (table.get slot).status = .runnable ∨ (table.get slot).status = .notRunnable := by
  -- A free slot holds nobody, and nobody is found half taken apart.
  have alive := sound.not_dying slot
  cases status : (table.get slot).status <;> simp_all [Env.isLive]

/-- Two environments never have the same id. -/
theorem id_injective (sound : table.Sound) {other : Slot} (live : (table.get slot).isLive)
    (otherLive : (table.get other).isLive) (same : (table.get slot).id = (table.get other).id) :
    slot = other := by
  -- Both ids lead back to the slots that they were given out for.
  rw [← (sound.named slot live).1, same, (sound.named other otherLive).1]

/-- The id of an environment leads to its slot. -/
theorem slot_id (sound : table.Sound) (live : (table.get slot).isLive) :
    (table.get slot).id.slot = slot :=
  (sound.named slot live).1

/-- An environment may change in all but its existence and its id. -/
theorem modify (sound : table.Sound) {change : Env → Env} (live : (table.get slot).isLive)
    (alive : (change (table.get slot)).status = .runnable ∨
      (change (table.get slot)).status = .notRunnable)
    (kept : (change (table.get slot)).id = (table.get slot).id) :
    (table.modify slot change).Sound where
  free_nodup := sound.free_nodup
  mem_free other := by
    rw [get_modify]
    split
    · rename_i same
      subst same
      -- The slot was not listed before, and its new status keeps it off the list.
      have listed := (sound.mem_free other).not.mpr (by simpa [Env.isLive] using live)
      rcases alive with status | status <;>
        simpa [status, EnvTable.modify, EnvTable.put] using listed
    · exact sound.mem_free other
  not_dying other := by
    rw [get_modify]
    split
    · rcases alive with status | status <;> simp [status]
    · exact sound.not_dying other
  vacant other := by
    rw [get_modify]
    split
    · rcases alive with status | status <;> simp [status]
    · exact sound.vacant other
  named other := by
    rw [get_modify]
    split
    · rename_i same
      subst same
      -- The slot keeps its id, which was in order before.
      exact fun _ => kept ▸ sound.named other live
    · exact sound.named other

/-- The first free slot can be given to a new environment. -/
theorem take (sound : table.Sound) {rest : List Slot} (first : table.free = slot :: rest)
    (parent : EnvId) (space : SpaceHandle) :
    ({ table with free := rest }.put slot
      (.fresh ((table.get slot).id.next slot) parent space)).Sound where
  free_nodup := (List.nodup_cons.mp (first ▸ sound.free_nodup)).2
  mem_free other := by
    have listed := sound.mem_free other
    have absent := (List.nodup_cons.mp (first ▸ sound.free_nodup)).1
    rw [get_put]
    split
    · rename_i same
      -- No slot is listed twice, so the head of the list is not in the rest.
      subst same
      simpa [Env.fresh, EnvTable.put] using absent
    · rename_i different
      rw [first, List.mem_cons] at listed
      simpa [EnvTable.put, different, get] using listed
  not_dying other := by
    rw [get_put]
    split
    · simp [Env.fresh]
    · exact sound.not_dying other
  vacant other := by
    rw [get_put]
    split
    · simp [Env.fresh]
    · exact sound.vacant other
  named other := by
    rw [get_put]
    split
    · rename_i same
      subst same
      -- The next id of a slot leads back to it, and is positive.
      exact fun _ => ⟨EnvId.slot_next _ _, EnvId.next_bounds _ _⟩
    · exact sound.named other

/-- The slot of an environment that goes is free again, and the next one to be used. -/
theorem vacate (sound : table.Sound) (live : (table.get slot).isLive) :
    ({ table.modify slot Env.vacated with free := slot :: table.free } : EnvTable).Sound where
  free_nodup := by
    -- A slot that is listed already would have been free.
    refine List.nodup_cons.mpr ⟨fun listed => ?_, sound.free_nodup⟩
    have status := (sound.mem_free slot).mp listed
    simp [Env.isLive, status] at live
  mem_free other := by
    show other ∈ slot :: table.free ↔ ((table.modify slot Env.vacated).get other).status = .free
    rw [get_modify, List.mem_cons]
    split
    · -- The slot that is vacated is free and listed; the others are as they were.
      rename_i same
      simp [same, Env.vacated]
    · rename_i different
      simpa [different] using sound.mem_free other
  not_dying other := by
    show ((table.modify slot Env.vacated).get other).status ≠ .dying
    rw [get_modify]
    split
    · simp [Env.vacated]
    · exact sound.not_dying other
  vacant other := by
    show ((table.modify slot Env.vacated).get other).status = .free →
      ((table.modify slot Env.vacated).get other).space = none ∧
        ((table.modify slot Env.vacated).get other).faultEntry = none ∧
          ((table.modify slot Env.vacated).get other).mailbox = {}
    rw [get_modify]
    split
    · simp [Env.vacated]
    · exact sound.vacant other
  named other := by
    show ((table.modify slot Env.vacated).get other).isLive = true →
      ((table.modify slot Env.vacated).get other).id.slot = other ∧
        0 < ((table.modify slot Env.vacated).get other).id.raw.toNat ∧
          ((table.modify slot Env.vacated).get other).id.raw.toNat < 2147483648
    rw [get_modify]
    split
    · simp [Env.vacated, Env.isLive]
    · exact sound.named other

end Sound

end EnvTable

end Exokernel
