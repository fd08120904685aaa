import Exokernel.Proofs.Env.Table

/-! Which generation follows another one, after whatever id a slot may have had. -/

namespace Exokernel

/-- A word reads as a positive number if it is not zero and has no sign bit. -/
theorem pos_toInt32_iff {word : Word} :
    0 < word.toInt32 ↔ 0 < word.toNat ∧ word.toNat < 2147483648 := by
  -- Numbers from the middle on are read as negative.
  have bound : word.toBitVec.toNat < 2 ^ 32 := word.toNat_lt
  rw [Int32.lt_iff_toInt_lt]
  show (0 : Int) < word.toBitVec.toInt ↔ 0 < word.toBitVec.toNat ∧ word.toBitVec.toNat < _
  rw [BitVec.toInt_eq_toNat_cond]
  split <;> omega

/-- A word without its remainder is the multiple below it. -/
theorem toNat_sub_mod (word unit : Word) :
    (word - word % unit).toNat = word.toNat - word.toNat % unit.toNat := by
  -- The remainder is not more than the word, so that nothing wraps around.
  rw [UInt32.toNat_sub_of_le _ _ (UInt32.le_iff_toNat_le.mpr ?_), UInt32.toNat_mod]
  rw [UInt32.toNat_mod]
  exact Nat.mod_le _ _

namespace EnvId

/-- The generation is what the low twelve bits leave of an id. -/
theorem toNat_generation (id : EnvId) :
    id.generation.toNat = id.raw.toNat - id.raw.toNat % 4096 :=
  toNat_sub_mod id.raw 0x1000

/-- The slot is what the low bits of an id say. -/
theorem val_slot (id : EnvId) : id.slot.val = id.raw.toNat % 2 ^ slotBits := rfl

/-- The generation is what an id has from the generation's position on. -/
theorem generation_eq_shift (id : EnvId) :
    id.generation = id.raw >>> UInt32.ofNat generationShift <<< UInt32.ofNat generationShift := by
  apply UInt32.toNat_inj.mp
  rw [toNat_generation, UInt32.toNat_shiftLeft, UInt32.toNat_shiftRight]
  have shift : (UInt32.ofNat generationShift).toNat % 32 = generationShift := rfl
  have unit : 2 ^ generationShift = 4096 := rfl
  rw [shift, Nat.shiftRight_eq_div_pow, Nat.shiftLeft_eq, unit]
  -- The bits that come back as zeros are the remainder that is taken off.
  have bound := id.raw.toNat_lt
  omega

/-- Every slot ends below the position of the generation. -/
theorem val_slot_lt (id : EnvId) : id.slot.val < 2 ^ generationShift :=
  -- There are fewer slots than the bits below the generation can tell apart.
  id.slot.isLt.trans (by decide)

/-- One generation later, in place; the first one if that does not read as a positive number. -/
def followingGeneration (previous : EnvId) : Word :=
  let later := previous.generation + 0x1000
  if 0 < later.toInt32 then later else 0x1000

/-- The slot of the next id does not reach up to its generation. -/
theorem toNat_generation_next (previous : EnvId) (slot : Slot) :
    (previous.next slot).generation.toNat =
      previous.nextGeneration.toNat - previous.nextGeneration.toNat % 4096 := by
  -- The word for the generation has ten clear bits, and the slot fits in them.
  have aligned := previous.nextGeneration_mod
  have inside : slot.val < 1024 := slot.isLt
  rw [toNat_generation, toNat_next]
  omega

/--
The next generation is the id one generation later without its slot bits, so that the two bits
between the slot and the generation are carried along.
-/
theorem toNat_nextGeneration_eq (previous : EnvId) {advanced : Nat}
    (sum : advanced = (previous.raw.toNat + 4096) % 4294967296) :
    previous.nextGeneration.toNat =
      if 1024 ≤ advanced ∧ advanced < 2147483648 then advanced - advanced % 1024 else 4096 := by
  have candidate := toNat_sub_mod (previous.raw + 0x1000) 1024
  have wrapped : (previous.raw + 0x1000).toNat = advanced :=
    (UInt32.toNat_add _ _).trans sum.symm
  have slots : UInt32.toNat 1024 = 1024 := rfl
  rw [wrapped, slots] at candidate
  -- The two tests on words are tests on the number that the candidate is.
  simp only [nextGeneration]
  generalize previous.raw + 0x1000 - (previous.raw + 0x1000) % 1024 = rounded at candidate
  have zero : rounded = 0 ↔ rounded.toNat = 0 := UInt32.toNat_inj.symm
  have negative : 0x80000000 ≤ rounded ↔ 2147483648 ≤ rounded.toNat := UInt32.le_iff_toNat_le
  split
  · rename_i passed
    rw [zero, negative] at passed
    rw [if_neg (by omega)]
    rfl
  · rename_i taken
    rw [zero, negative] at taken
    rw [if_pos (by omega), candidate]

/-- The generation that should follow, as a number. -/
theorem toNat_followingGeneration (previous : EnvId) {advanced : Nat}
    (sum : advanced = (previous.raw.toNat + 4096) % 4294967296) :
    previous.followingGeneration.toNat =
      if 4096 ≤ advanced ∧ advanced < 2147483648 then advanced - advanced % 4096 else 4096 := by
  -- To add a generation and to clear the low bits may be done in either order.
  have later : (previous.generation + 0x1000).toNat = advanced - advanced % 4096 := by
    rw [UInt32.toNat_add, toNat_generation, sum, show UInt32.toNat 0x1000 = 4096 from rfl]
    omega
  simp only [followingGeneration, pos_toInt32_iff, later]
  split
  · rw [if_pos (by omega), later]
  · rw [if_neg (by omega)]
    rfl

/-- The generation that should follow is never zero. -/
theorem followingGeneration_ne_zero (previous : EnvId) : previous.followingGeneration ≠ 0 := by
  -- The sum is taken only if it is positive, and the first generation otherwise.
  rw [followingGeneration]
  split
  · rename_i positive
    have number := (pos_toInt32_iff.mp positive).1
    exact fun zero => by simp [zero] at number
  · decide

/-- Up to the last 3072 words the next id has the generation that should follow. -/
theorem generation_next_of_lt {previous : EnvId} (slot : Slot) (low : previous.raw < 0xfffff400) :
    (previous.next slot).generation = previous.followingGeneration := by
  obtain ⟨advanced, sum⟩ : ∃ advanced, advanced = (previous.raw.toNat + 4096) % 4294967296 :=
    ⟨_, rfl⟩
  have bound : previous.raw.toNat < 4294964224 := UInt32.lt_iff_toNat_lt.mp low
  rw [← UInt32.toNat_inj, toNat_generation_next, toNat_nextGeneration_eq previous sum,
    toNat_followingGeneration previous sum]
  -- Between the two bounds from which a word counts there is no word that is reached from here.
  split_ifs <;> omega

/-- After one of the last 3072 words the candidate counts, although its generation is zero. -/
theorem generation_next_of_le {previous : EnvId} (slot : Slot) (high : 0xfffff400 ≤ previous.raw) :
    (previous.next slot).generation = 0 := by
  obtain ⟨advanced, sum⟩ : ∃ advanced, advanced = (previous.raw.toNat + 4096) % 4294967296 :=
    ⟨_, rfl⟩
  -- The sum runs over, to a word that is positive, but has no bit of a generation.
  have bound : 4294964224 ≤ previous.raw.toNat := UInt32.le_iff_toNat_le.mp high
  have top := previous.raw.toNat_lt
  rw [← UInt32.toNat_inj, toNat_generation_next, toNat_nextGeneration_eq previous sum,
    if_pos (by omega), UInt32.toNat_zero]
  omega

/--
The next id of a slot leads to this slot and reads as a positive number. It has the generation that
should follow, which is never zero, unless the id before is one of the last 3072 words: the bits
between its slot and its generation then pass for a generation.
-/
theorem succession (previous : EnvId) (slot : Slot) :
    (previous.next slot).slot = slot ∧ 0 < (previous.next slot).raw.toInt32 ∧
      ((previous.next slot).generation ≠ 0 ↔ previous.raw < 0xfffff400) ∧
      (previous.next slot).generation =
        if previous.raw < 0xfffff400 then previous.followingGeneration else 0 := by
  refine ⟨slot_next previous slot, pos_toInt32_iff.mpr (next_bounds previous slot), ?_⟩
  -- Whether the sum wraps around decides about the generation.
  by_cases low : previous.raw < 0xfffff400
  · rw [generation_next_of_lt slot low, if_pos low]
    exact ⟨iff_of_true previous.followingGeneration_ne_zero low, rfl⟩
  · rw [generation_next_of_le slot (UInt32.not_lt.mp low), if_neg low]
    exact ⟨iff_of_false (fun nonzero => nonzero rfl) low, rfl⟩

/-- Here the sum wraps around to bits between slot and generation, which pass for a generation. -/
theorem succession_overrun : (next ⟨0xfffffc00⟩ (slotAt 3)).generation = 0 ∧
    followingGeneration ⟨0xfffffc00⟩ = 0x1000 := by
  -- The word is above the bound, so that the last part tells its generation.
  obtain ⟨-, -, -, reached⟩ := succession ⟨0xfffffc00⟩ (slotAt 3)
  exact ⟨reached.trans (if_neg (by decide)), by decide⟩

end EnvId

end Exokernel
