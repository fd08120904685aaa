import Exokernel.Memory.WordMap
import Mathlib

/-! What a map stores after an insertion or a removal, and how many entries fit below a key. -/

namespace Exokernel.WordMap

variable {β : Type}

/-- A key finds a value exactly when the two are stored together. -/
theorem find?_eq_some_iff (map : WordMap β) (key : Word) (value : β) :
    map.find? key = some value ↔ (key, value) ∈ map.toList := by
  -- No other entry carries the same key, since the keys ascend strictly.
  obtain ⟨entries, sorted⟩ := map
  simp only [find?]
  induction entries with
  | nil => simp
  | cons head rest ih =>
    obtain ⟨other, kept⟩ := head
    obtain ⟨above, sorted⟩ := List.pairwise_cons.mp sorted
    by_cases same : other = key
    · subst same
      have absent : (other, value) ∉ rest :=
        fun member => UInt32.lt_irrefl other (above (other, value) member)
      simp [absent, eq_comm]
    · simpa [List.find?_cons, same, Ne.symm same] using ih sorted

/-- The stored values are the ones that some key finds. -/
theorem mem_values_iff (map : WordMap β) (value : β) :
    value ∈ map.values ↔ ∃ key, map.find? key = some value := by
  -- A value is stored together with the key that finds it.
  simp [values, find?_eq_some_iff]

/-- An insertion stores one more value, in exchange for the one that its key found before. -/
theorem values_insert (map : WordMap β) (key : Word) (value : β) :
    ((map.insert key value).values ++ (map.find? key).toList).Perm (value :: map.values) := by
  -- The walk either meets the key, or stops below a greater one, after which it cannot follow.
  obtain ⟨entries, sorted⟩ := map
  simp only [values, find?, insert]
  induction entries with
  | nil => simp [insertEntry]
  | cons head rest ih =>
    obtain ⟨other, kept⟩ := head
    obtain ⟨above, sorted⟩ := List.pairwise_cons.mp sorted
    simp only [insertEntry]
    split
    · rename_i less
      have absent : rest.find? (fun entry => entry.1 == key) = none := by
        refine List.find?_eq_none.mpr fun entry member => ?_
        have later := UInt32.lt_trans less (above entry member)
        simpa using (UInt32.ne_of_lt later).symm
      simp [(UInt32.ne_of_lt less).symm, absent]
    · split
      · rename_i same
        subst same
        simp
      · rename_i different
        have step := (ih sorted).cons kept
        simp only [List.find?_cons, beq_eq_false_iff_ne.mpr (Ne.symm different)]
        exact step.trans (List.Perm.swap _ _ _)

/-- A removal takes away the value that its key found. -/
theorem values_erase (map : WordMap β) (key : Word) :
    ((map.erase key).values ++ (map.find? key).toList).Perm map.values := by
  -- Only one entry carries the key, so the filter drops at most that one.
  obtain ⟨entries, sorted⟩ := map
  simp only [values, find?, erase]
  induction entries with
  | nil => simp
  | cons head rest ih =>
    obtain ⟨other, kept⟩ := head
    obtain ⟨above, sorted⟩ := List.pairwise_cons.mp sorted
    by_cases same : other = key
    · subst same
      have stays : rest.filter (fun entry => entry.1 != other) = rest := by
        refine List.filter_eq_self.mpr fun entry member => ?_
        simpa using (UInt32.ne_of_lt (above entry member)).symm
      simp [stays]
    · simpa [List.find?_cons, same] using (ih sorted).cons kept

/-- A map whose keys all lie below a bound has at most that many entries. -/
theorem size_le {map : WordMap β} {bound : Nat}
    (below : ∀ key value, map.find? key = some value → key.toNat < bound) : map.size ≤ bound := by
  -- Distinct keys are distinct numbers below the bound.
  have distinct : (map.toList.map fun entry => entry.1.toNat).Nodup := by
    refine List.pairwise_map.mpr (map.ascending.imp fun less => ?_)
    exact Nat.ne_of_lt (UInt32.lt_iff_toNat_lt.mp less)
  have within : (map.toList.map fun entry => entry.1.toNat) ⊆ List.range bound := by
    intro number member
    obtain ⟨⟨key, value⟩, stored, rfl⟩ := List.mem_map.mp member
    exact List.mem_range.mpr (below key value ((map.find?_eq_some_iff key value).mpr stored))
  simpa [size] using (distinct.subperm within).length_le

/-- Keys whose values have a property. -/
def keysWhere (map : WordMap β) (wanted : β → Bool) : Finset Word :=
  ((map.toList.filter fun entry => wanted entry.2).map Prod.fst).toFinset

/-- The keys with a wanted value are those that are found with one. -/
@[simp] theorem mem_keysWhere {map : WordMap β} {wanted : β → Bool} {key : Word} :
    key ∈ map.keysWhere wanted ↔ ∃ value, map.find? key = some value ∧ wanted value = true := by
  -- Keys are found where they are listed.
  simp [keysWhere, find?_eq_some_iff]

/-- There are as many of these keys as there are such values. -/
theorem card_keysWhere (map : WordMap β) (wanted : β → Bool) :
    (map.keysWhere wanted).card = map.toList.countP fun entry => wanted entry.2 := by
  -- No key is counted twice, since the keys ascend strictly.
  have distinct : ((map.toList.filter fun entry => wanted entry.2).map Prod.fst).Nodup :=
    List.pairwise_map.mpr ((map.ascending.filter _).imp fun less => UInt32.ne_of_lt less)
  rw [keysWhere, List.toFinset_card_of_nodup distinct, List.length_map,
    List.countP_eq_length_filter]

end Exokernel.WordMap
