import Exokernel.Abi.PageFlags
import Mathlib

/-! Sets of flags: containment, union and removal, bit by bit. -/

namespace Exokernel.PageFlags

variable {flags wanted held others : PageFlags}

/-- The bits of a union are the bits of both sets. -/
@[simp] theorem bits_or (flags others : PageFlags) :
    (flags ||| others).bits = flags.bits ||| others.bits := rfl

/-- Sets with the same bits are the same. -/
theorem eq_of_bits_eq (same : flags.bits = others.bits) : flags = others := by
  -- A set is nothing but its bits.
  cases flags
  cases others
  exact congrArg PageFlags.mk same

/-- A set contains another one if it has each bit that the other one has. -/
theorem contains_iff : flags.contains wanted = true ↔
    ∀ index, wanted.bits.toBitVec.getLsbD index = true →
      flags.bits.toBitVec.getLsbD index = true := by
  -- The words are compared bit by bit.
  rw [contains, beq_iff_eq, ← UInt32.toBitVec_inj, UInt32.toBitVec_and]
  constructor
  · intro same index bit
    have here := congrArg (·.getLsbD index) same
    simpa [bit] using here
  · intro subset
    apply BitVec.eq_of_getLsbD_eq
    intro index _
    have here := subset index
    cases bit : wanted.bits.toBitVec.getLsbD index <;> simp_all

/-- Flags that are there already add nothing. -/
theorem or_eq_left (inside : flags.contains wanted = true) : flags ||| wanted = flags := by
  rw [contains_iff] at inside
  apply eq_of_bits_eq
  rw [bits_or, ← UInt32.toBitVec_inj, UInt32.toBitVec_or]
  apply BitVec.eq_of_getLsbD_eq
  intro index _
  have here := inside index
  -- Bit by bit: one that is wanted is there already.
  cases bit : wanted.bits.toBitVec.getLsbD index <;> simp_all

/-- A union is contained if both its parts are. -/
theorem contains_or_iff : flags.contains (wanted ||| others) = true ↔
    flags.contains wanted = true ∧ flags.contains others = true := by
  -- A bit of the union is a bit of one of the parts.
  simp only [contains_iff, bits_or, UInt32.toBitVec_or, BitVec.getLsbD_or, Bool.or_eq_true]
  constructor
  · intro both
    exact ⟨fun index bit => both index (.inl bit), fun index bit => both index (.inr bit)⟩
  · rintro ⟨first, second⟩ index (bit | bit)
    · exact first index bit
    · exact second index bit

/-- A permission that user code may ask for is present already. -/
theorem or_present (permitted : flags.isUserPermission = true) : flags ||| .present = flags := by
  -- The present bit is one of the required ones.
  simp only [isUserPermission, Bool.and_eq_true] at permitted
  obtain ⟨present, -⟩ := contains_or_iff.mp permitted.1
  exact or_eq_left present

/-- What contains a set contains whatever the set contains. -/
theorem contains_trans (outer : others.contains flags = true)
    (inner : flags.contains wanted = true) : others.contains wanted = true := by
  -- Bit by bit, one inclusion follows the other.
  rw [contains_iff] at outer inner ⊢
  exact fun index bit => outer index (inner index bit)

/-- A permission that user code may ask for has no bit of a frame's address. -/
theorem all_contains (allowed : flags.isUserPermission = true) : all.contains flags = true := by
  -- It has permitted flags only, and those are flags that have a meaning.
  simp only [isUserPermission, Bool.and_eq_true] at allowed
  exact contains_trans (by decide) allowed.2

/-- Sets with the same bits are the same. -/
theorem ext_getLsbD (same : ∀ index, flags.bits.toBitVec.getLsbD index =
    others.bits.toBitVec.getLsbD index) : flags = others :=
  eq_of_bits_eq (UInt32.toBitVec_inj.mp (BitVec.eq_of_getLsbD_eq fun index _ => same index))

/-- Sets that intersect have a bit in common. -/
theorem exists_of_intersects (meets : flags.intersects others = true) : ∃ index,
    flags.bits.toBitVec.getLsbD index = true ∧ others.bits.toBitVec.getLsbD index = true := by
  -- Otherwise no bit would be left.
  by_contra apart
  have none_ : flags.bits &&& others.bits = 0 := by
    refine UInt32.toBitVec_inj.mp (BitVec.eq_of_getLsbD_eq fun index _ => ?_)
    rw [UInt32.toBitVec_and, BitVec.getLsbD_and]
    simp only [not_exists, not_and, Bool.not_eq_true] at apart
    have here := apart index
    cases bit : flags.bits.toBitVec.getLsbD index <;> simp_all
  simp [intersects, none_] at meets

/-- Writing takes the second bit and no other. -/
theorem getLsbD_writable (index : Nat) :
    PageFlags.writable.bits.toBitVec.getLsbD index = decide (index = 1) := by
  -- As a number it is a power of two.
  have value : PageFlags.writable.bits.toBitVec = BitVec.twoPow 32 1 := by decide
  rw [value, BitVec.getLsbD_twoPow]
  simp [eq_comm]

/-- The mark of a page that is copied before it is written is the twelfth bit. -/
theorem getLsbD_copyOnWrite (index : Nat) :
    PageFlags.copyOnWrite.bits.toBitVec.getLsbD index = decide (index = 11) := by
  -- As a number it is a power of two.
  have value : PageFlags.copyOnWrite.bits.toBitVec = BitVec.twoPow 32 11 := by decide
  rw [value, BitVec.getLsbD_twoPow]
  simp [eq_comm]

/-- A set allows writing if it has the second bit. -/
theorem contains_writable_iff :
    flags.contains .writable = true ↔ flags.bits.toBitVec.getLsbD 1 = true := by
  -- There is one bit to contain.
  simp [contains_iff, getLsbD_writable]

/-- A page that is marked to be copied has lost the bit for writing, and no other. -/
theorem getLsbD_shared (flags : PageFlags) (index : Nat) :
    (flags.without .writable ||| .copyOnWrite).bits.toBitVec.getLsbD index =
      (flags.bits.toBitVec.getLsbD index && decide (index ≠ 1) || decide (index = 11)) := by
  rw [bits_or, UInt32.toBitVec_or, BitVec.getLsbD_or, without, UInt32.toBitVec_and,
    BitVec.getLsbD_and, UInt32.toBitVec_not, BitVec.getLsbD_not, getLsbD_writable,
    getLsbD_copyOnWrite]
  -- Beyond the word's length there are no bits, and within it masks act bit by bit.
  by_cases inside : index < 32
  · simp [inside]
  · simp [BitVec.getLsbD_of_ge _ _ (Nat.not_lt.mp inside)]

/-- A page that is marked to be copied instead of written cannot be written. -/
theorem not_writable_shared (flags : PageFlags) :
    (flags.without .writable ||| .copyOnWrite).contains .writable = false := by
  -- The bit for writing is the one that is taken away.
  rw [Bool.eq_false_iff, Ne, contains_writable_iff, getLsbD_shared]
  simp

/-- Flags that have nothing in common with a set that permits writing do not permit it. -/
theorem not_writable_of_disjoint (apart : ¬flags.intersects others = true)
    (writes : others.contains .writable = true) : flags.contains .writable = false := by
  -- Otherwise the two sets would have the bit for writing in common.
  rw [contains_writable_iff] at writes
  rw [Bool.eq_false_iff, Ne, contains_writable_iff]
  intro bit
  have none_ : flags.bits &&& others.bits = 0 := by simpa [intersects] using apart
  have zero := congrArg (·.toBitVec.getLsbD 1) none_
  rw [UInt32.toBitVec_and, BitVec.getLsbD_and, bit, writes] at zero
  simp at zero

/--
The permission with which a page is shared: if it could be written, or was shared before, it is to
be copied before it is written.
-/
def demoted (flags : PageFlags) : PageFlags :=
  if flags.intersects (.writable ||| .copyOnWrite) then flags.without .writable ||| .copyOnWrite
  else flags

/-- A shared page cannot be written. -/
theorem not_writable_demoted (flags : PageFlags) : flags.demoted.contains .writable = false := by
  -- It has lost the bit for writing, or it never had it.
  unfold demoted
  split
  · exact not_writable_shared flags
  · rename_i plain
    exact not_writable_of_disjoint plain (by decide)

/-- User code may ask for the permission with which it shares a page. -/
theorem isUserPermission_demoted (allowed : flags.isUserPermission = true) :
    flags.demoted.isUserPermission = true := by
  unfold demoted
  split
  · simp only [isUserPermission, Bool.and_eq_true, contains_iff] at allowed ⊢
    -- The bit that goes is not required, and the one that comes is permitted.
    have optional : PageFlags.required.bits.toBitVec.getLsbD 1 = false := by decide
    have mark : PageFlags.permitted.bits.toBitVec.getLsbD 11 = true := by decide
    refine ⟨fun index wanted => ?_, fun index has => ?_⟩
    · have other : index ≠ 1 := by
        rintro rfl
        rw [optional] at wanted
        simp at wanted
      rw [getLsbD_shared, allowed.1 index wanted]
      simp [other]
    · simp only [getLsbD_shared, Bool.or_eq_true, Bool.and_eq_true, decide_eq_true_eq] at has
      rcases has with ⟨old, -⟩ | rfl
      · exact allowed.2 index old
      · exact mark
  · exact allowed

/-- Sharing a page that cannot be written leaves its permission as it is. -/
theorem demoted_cases (flags : PageFlags) : flags.demoted = flags ∨
    flags.contains .writable = true ∧ flags.demoted = flags.without .writable ||| .copyOnWrite := by
  unfold demoted
  split
  · rename_i meets
    by_cases writes : flags.contains .writable = true
    · exact .inr ⟨writes, rfl⟩
    · -- What the two sets have in common is the mark, so that it is there already.
      rw [contains_writable_iff] at writes
      obtain ⟨index, has, either⟩ := exists_of_intersects meets
      simp only [bits_or, UInt32.toBitVec_or, BitVec.getLsbD_or, getLsbD_writable,
        getLsbD_copyOnWrite, Bool.or_eq_true, decide_eq_true_eq] at either
      rcases either with rfl | rfl
      · exact absurd has writes
      · refine .inl (ext_getLsbD fun index => ?_)
        rw [getLsbD_shared]
        by_cases second : index = 1
        · -- At the other bits the mark and the permission to write say nothing.
          simp_all
        · by_cases twelfth : index = 11 <;> simp_all
  · exact .inl rfl

/-- Sharing a page once more leaves its permission as it is. -/
@[simp] theorem demoted_demoted (flags : PageFlags) : flags.demoted.demoted = flags.demoted := by
  -- Only what can be written is changed, and a shared page cannot.
  rcases flags.demoted.demoted_cases with same | ⟨writes, -⟩
  · exact same
  · simp [not_writable_demoted] at writes

end Exokernel.PageFlags
