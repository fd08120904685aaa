import Exokernel.Layout

/-! Finite maps from words, kept in ascending order of their keys. -/

namespace Exokernel

/-- Keys in strictly ascending order. -/
abbrev Ascending {β : Type} (entries : List (Word × β)) : Prop :=
  entries.Pairwise fun left right => left.1 < right.1

/-- A finite map from words. -/
structure WordMap (β : Type) where
  /-- The entries in ascending order of their keys. -/
  toList : List (Word × β)
  /-- No key occurs twice, and the order is fixed by the keys. -/
  ascending : Ascending toList

namespace WordMap

variable {β : Type}

/-- The map without entries. -/
def empty : WordMap β :=
  ⟨[], List.Pairwise.nil⟩

/-- Puts an entry at its place, replacing an entry with the same key. -/
def insertEntry (key : Word) (value : β) : List (Word × β) → List (Word × β)
  -- Keys stay in order, and none occurs twice.
  | [] => [(key, value)]
  | (other, kept) :: rest =>
    if key < other then (key, value) :: (other, kept) :: rest
    else if key = other then (key, value) :: rest
    else (other, kept) :: insertEntry key value rest

/-- An entry after an insertion is the new one or an old one. -/
theorem mem_insertEntry {key : Word} {value : β} {entries : List (Word × β)} {entry : Word × β}
    (member : entry ∈ insertEntry key value entries) :
    entry = (key, value) ∨ entry ∈ entries := by
  -- Each branch either stops at the new entry or passes one old entry by.
  induction entries with
  | nil => simpa [insertEntry] using member
  | cons head rest ih =>
    obtain ⟨other, kept⟩ := head
    simp only [insertEntry] at member
    split at member
    · simpa using member
    · split at member
      · -- The old head is gone, and everything else is an old entry.
        rcases List.mem_cons.mp member with new | old
        · exact .inl new
        · exact .inr (List.mem_cons_of_mem _ old)
      · rcases List.mem_cons.mp member with head | deeper
        · exact .inr (head ▸ List.mem_cons_self)
        · exact (ih deeper).imp id (List.mem_cons_of_mem _)

/-- Insertion keeps the keys in order. -/
theorem ascending_insertEntry (key : Word) (value : β) {entries : List (Word × β)}
    (sorted : Ascending entries) : Ascending (insertEntry key value entries) := by
  -- The new entry stops before the first greater key.
  induction entries with
  | nil => exact List.pairwise_singleton _ _
  | cons head rest ih =>
    obtain ⟨other, kept⟩ := head
    obtain ⟨above, sorted⟩ := List.pairwise_cons.mp sorted
    simp only [insertEntry]
    split
    · rename_i less
      refine List.pairwise_cons.mpr
        ⟨fun entry member => ?_, List.pairwise_cons.mpr ⟨above, sorted⟩⟩
      rcases List.mem_cons.mp member with first | later
      · exact first ▸ less
      · exact UInt32.lt_trans less (above entry later)
    · split
      · rename_i same
        exact List.pairwise_cons.mpr ⟨fun entry member => same ▸ above entry member, sorted⟩
      · rename_i notLess notSame
        refine List.pairwise_cons.mpr ⟨fun entry member => ?_, ih sorted⟩
        rcases mem_insertEntry member with new | old
        · subst new
          -- A key that is neither less nor equal is greater.
          exact UInt32.lt_of_le_of_ne (UInt32.not_lt.mp notLess) (Ne.symm notSame)
        · exact above entry old

/-- Value stored for a key. -/
def find? (map : WordMap β) (key : Word) : Option β :=
  (map.toList.find? fun entry => entry.1 == key).map Prod.snd

/-- The map with a key's value set. -/
def insert (map : WordMap β) (key : Word) (value : β) : WordMap β :=
  ⟨insertEntry key value map.toList, ascending_insertEntry key value map.ascending⟩

/-- The map without a key. -/
def erase (map : WordMap β) (key : Word) : WordMap β :=
  ⟨map.toList.filter fun entry => entry.1 != key, map.ascending.filter _⟩

/-- The stored values in ascending order of their keys. -/
def values (map : WordMap β) : List β :=
  map.toList.map Prod.snd

/-- Number of entries. -/
def size (map : WordMap β) : Nat :=
  map.toList.length

/-- Nothing is found in the empty map. -/
@[simp] theorem find?_empty (key : Word) : (empty : WordMap β).find? key = none := rfl

/-- Looking a key up just after setting it finds the new value. -/
@[simp] theorem find?_insert_same (map : WordMap β) (key : Word) (value : β) :
    (map.insert key value).find? key = some value := by
  -- The new entry is the first one that carries its key.
  simp only [find?, insert]
  induction map.toList with
  | nil => simp [insertEntry]
  | cons head rest ih =>
    obtain ⟨other, kept⟩ := head
    simp only [insertEntry]
    split
    · simp
    · split
      · simp
      · rename_i different
        simpa [List.find?_cons, Ne.symm different] using ih

/-- Setting one key leaves every other look-up as it was. -/
theorem find?_insert_other (map : WordMap β) {key other : Word} (value : β)
    (different : other ≠ key) : (map.insert key value).find? other = map.find? other := by
  -- Passing the new entry by never stops the search for another key.
  simp only [find?, insert]
  induction map.toList with
  | nil => simp [insertEntry, different.symm]
  | cons head rest ih =>
    obtain ⟨first, kept⟩ := head
    simp only [insertEntry]
    split
    · simp [different.symm]
    · split
      · rename_i same
        subst same
        simp [different.symm]
      · simp only [List.find?_cons]
        split
        · rfl
        · exact ih

/-- A removed key is not found. -/
@[simp] theorem find?_erase_same (map : WordMap β) (key : Word) :
    (map.erase key).find? key = none := by
  -- The filter keeps no entry with this key.
  simp only [find?, erase, Option.map_eq_none_iff, List.find?_eq_none]
  intro entry kept same
  have differs := (List.mem_filter.mp kept).2
  simp_all

/-- Removing one key leaves every other look-up as it was. -/
theorem find?_erase_other (map : WordMap β) {key other : Word} (different : other ≠ key) :
    (map.erase key).find? other = map.find? other := by
  -- An entry that the filter drops carries the removed key, which is not searched for.
  simp only [find?, erase]
  induction map.toList with
  | nil => rfl
  | cons head rest ih =>
    obtain ⟨first, kept⟩ := head
    by_cases dropped : first = key
    · simpa [List.filter, dropped, different.symm] using ih
    · have stays : (first != key) = true := bne_iff_ne.mpr dropped
      simp only [List.filter, stays, List.find?_cons]
      -- The head either is the entry searched for or is passed by on both sides.
      split
      · rfl
      · exact ih

end WordMap

end Exokernel
