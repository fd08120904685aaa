import Exokernel.Abi.FaultRecord
import Mathlib

/-! Words and fault records read back from their bytes. -/

namespace Exokernel

/-- Four bytes that are put together to a word are the digits of its number, to the base 256. -/
theorem toNat_joined (first second third fourth : UInt8) :
    (first.toUInt32 ||| second.toUInt32 <<< 8 ||| third.toUInt32 <<< 16 |||
      fourth.toUInt32 <<< 24).toNat =
      first.toNat + 2 ^ 8 * second.toNat + 2 ^ 16 * third.toNat + 2 ^ 24 * fourth.toNat := by
  have one := first.toNat_lt
  have two := second.toNat_lt
  have three := third.toNat_lt
  have four := fourth.toNat_lt
  -- A byte stays inside the word when it is moved to its place.
  have moved (byte : UInt8) (places : Nat) (few : places ≤ 24) :
      byte.toNat <<< places % 2 ^ 32 = 2 ^ places * byte.toNat := by
    have small : 2 ^ places * byte.toNat < 2 ^ 32 :=
      calc 2 ^ places * byte.toNat
        _ < 2 ^ places * 2 ^ 8 := Nat.mul_lt_mul_of_pos_left byte.toNat_lt (Nat.two_pow_pos _)
        _ = 2 ^ (places + 8) := (Nat.pow_add ..).symm
        _ ≤ 2 ^ 32 := Nat.pow_le_pow_right (by decide) (Nat.add_le_add_right few 8)
    rw [Nat.shiftLeft_eq, Nat.mul_comm, Nat.mod_eq_of_lt small]
  -- What is below a place has no bit in common with what stands there.
  have beside (low high places : Nat) (small : low < 2 ^ places) :
      low ||| 2 ^ places * high = low + 2 ^ places * high := by
    rw [Nat.or_comm, ← Nat.two_pow_add_eq_or_of_lt small, Nat.add_comm]
  simp only [UInt32.toNat_or, UInt32.toNat_shiftLeft, UInt8.toNat_toUInt32]
  rw [show UInt32.toNat 8 % 32 = 8 from rfl, show UInt32.toNat 16 % 32 = 16 from rfl,
    show UInt32.toNat 24 % 32 = 24 from rfl, moved _ 8 (by decide), moved _ 16 (by decide),
    moved _ 24 (by decide), beside _ _ 8 one, beside _ _ 16 (by omega), beside _ _ 24 (by omega)]

/-- A word is put together again from its four bytes. -/
theorem wordBytes_joined (word : Word) :
    word.toUInt8.toUInt32 ||| (word >>> 8).toUInt8.toUInt32 <<< 8 |||
      (word >>> 16).toUInt8.toUInt32 <<< 16 ||| (word >>> 24).toUInt8.toUInt32 <<< 24 = word := by
  -- Both are the same number, which is written in digits to the base 256.
  have number := word.toNat_lt
  refine UInt32.toNat_inj.mp ?_
  simp only [toNat_joined, UInt32.toNat_toUInt8, UInt32.toNat_shiftRight,
    Nat.shiftRight_eq_div_pow]
  rw [show UInt32.toNat 8 % 32 = 8 from rfl, show UInt32.toNat 16 % 32 = 16 from rfl,
    show UInt32.toNat 24 % 32 = 24 from rfl]
  omega

/-- The first word of a row of bytes is read back. -/
theorem wordAt_zero (word : Word) (rest : List UInt8) : wordAt (wordBytes word ++ rest) 0 = word :=
  wordBytes_joined word

/-- Behind a word, bytes are read as they would be without it. -/
theorem wordAt_add_four (word : Word) (rest : List UInt8) (offset : Nat) :
    wordAt (wordBytes word ++ rest) (offset + 4) = wordAt rest offset := by
  -- Four bytes on, a position lies past the first word.
  have shifted (i : Nat) : (wordBytes word ++ rest).getD (offset + 4 + i) 0 =
      rest.getD (offset + i) 0 := by
    have past : (wordBytes word).length ≤ offset + 4 + i := by
      simp only [wordBytes, List.length_cons, List.length_nil]
      omega
    rw [List.getD_append_right _ _ _ _ past]
    congr 1
    simp only [wordBytes, List.length_cons, List.length_nil]
    omega
  simp only [wordAt, shifted]

/-- Each word of a row of words is read back from its place. -/
theorem wordAt_flatMap {words : List Word} {position : Nat} (inside : position < words.length) :
    wordAt (words.flatMap wordBytes) (4 * position) = words[position] := by
  -- Induct on the words: behind the first four bytes begin the rest.
  induction words generalizing position with
  | nil => simp at inside
  | cons word rest ih =>
    rw [List.flatMap_cons]
    cases position with
    | zero => exact wordAt_zero word _
    | succ position =>
      rw [Nat.mul_succ, wordAt_add_four, ih (by simpa using inside)]
      rfl

/-- The byte at a place of a word is the digit there of its number, to the base 256. -/
theorem getElem?_wordBytes (word : Word) {place : Nat} (inside : place < 4) :
    (wordBytes word)[place]? = some (UInt8.ofNat (word.toNat / 256 ^ place)) := by
  -- Only the four places of a word are left, and each of them has a shift of its own.
  have shifted (places : Word) : (word >>> places).toUInt8 =
      UInt8.ofNat (word.toNat / 2 ^ (places.toNat % 32)) := by
    refine UInt8.toNat_inj.mp ?_
    rw [UInt32.toNat_toUInt8, UInt32.toNat_shiftRight, Nat.shiftRight_eq_div_pow,
      UInt8.toNat_ofNat']
  have unshifted : word.toUInt8 = UInt8.ofNat word.toNat := by
    refine UInt8.toNat_inj.mp ?_
    rw [UInt32.toNat_toUInt8, UInt8.toNat_ofNat']
  match place, inside with
  | 0, _ =>
    show some word.toUInt8 = _
    rw [unshifted, pow_zero, Nat.div_one]
  | 1, _ => exact congrArg some (shifted 8)
  | 2, _ => exact congrArg some (shifted 16)
  | 3, _ => exact congrArg some (shifted 24)

/-- A word that was put together from four bytes falls into the same bytes. -/
theorem wordBytes_wordAt {bytes : List UInt8} {offset : Nat}
    (inside : offset + 4 ≤ bytes.length) :
    wordBytes (wordAt bytes offset) = (bytes.drop offset).take 4 := by
  have found (place : Nat) (within : place < 4) :
      bytes[offset + place]? = some (bytes.getD (offset + place) 0) := by
    rw [List.getD_eq_getElem?_getD, List.getElem?_eq_getElem (by omega)]
    rfl
  have number : (wordAt bytes offset).toNat = _ := toNat_joined _ _ _ _
  -- Compare the bytes place by place, each of them as a digit of the word.
  refine List.ext_getElem? fun place => ?_
  rw [List.getElem?_take, List.getElem?_drop]
  split
  · rename_i within
    rw [getElem?_wordBytes _ within, found place within, number, Option.some.injEq,
      ← UInt8.toNat_inj, UInt8.toNat_ofNat']
    have digits (byte : UInt8) := byte.toNat_lt
    have one := digits (bytes.getD (offset + 0) 0)
    have two := digits (bytes.getD (offset + 1) 0)
    have three := digits (bytes.getD (offset + 2) 0)
    have four := digits (bytes.getD (offset + 3) 0)
    match place, within with
    | 0, _ | 1, _ | 2, _ | 3, _ => omega
  · rename_i outside
    exact List.getElem?_eq_none (by simpa [wordBytes] using outside)

/-- The words of a string of bytes are written as this string. -/
theorem flatMap_wordAt {bytes : List UInt8} {count : Nat} (length : bytes.length = 4 * count) :
    ((List.range count).map fun position => wordAt bytes (4 * position)).flatMap wordBytes =
      bytes := by
  -- Induct on the number of words that are written already.
  have written (done : Nat) (few : done ≤ count) :
      ((List.range done).map fun position => wordAt bytes (4 * position)).flatMap wordBytes =
        bytes.take (4 * done) := by
    induction done with
    | zero => rfl
    | succ done ih =>
      rw [List.range_succ, List.map_append, List.flatMap_append, ih (by omega), List.map_singleton,
        List.flatMap_singleton, wordBytes_wordAt (by omega), Nat.mul_succ, List.take_add]
  rw [written count le_rfl, ← length, List.take_length]

/-- The bytes of the word at a position begin at four times this position. -/
theorem getElem?_flatMap_wordBytes (words : List Word) (position : Nat) {place : Nat}
    (inside : place < 4) :
    (words.flatMap wordBytes)[4 * position + place]? =
      words[position]?.map fun word => UInt8.ofNat (word.toNat / 256 ^ place) := by
  -- Induct on the words: behind the first four bytes begin the rest.
  induction words generalizing position with
  | nil => rfl
  | cons word rest ih =>
    have length : (wordBytes word).length = 4 := rfl
    rw [List.flatMap_cons]
    cases position with
    | zero =>
      rw [List.getElem?_append_left (by omega), Nat.mul_zero, Nat.zero_add,
        getElem?_wordBytes word inside]
      rfl
    | succ position =>
      rw [List.getElem?_append_right (by omega), List.getElem?_cons_succ, ← ih position]
      congr 1
      omega

namespace FaultRecord

/-- A fault record survives its encoding. -/
@[simp] theorem decode_encode (record : FaultRecord) :
    decode record.encode = record := by
  -- Every word of the record is read where it was put.
  have word (position : Nat) (inside : position < 13) :
      wordAt record.encode (4 * position) = record.toWords[position] := wordAt_flatMap inside
  simp only [decode, word 0 (by decide), word 1 (by decide), word 2 (by decide),
    word 3 (by decide), word 4 (by decide), word 5 (by decide), word 6 (by decide),
    word 7 (by decide), word 8 (by decide), word 9 (by decide), word 10 (by decide),
    word 11 (by decide), word 12 (by decide)]
  rfl

/-- Bytes that are read as a record are written again when the record is. -/
theorem encode_decode {bytes : List UInt8} (whole : bytes.length = length) :
    (decode bytes).encode = bytes := by
  -- The words that are read are those that are written, in the same order.
  have words : (decode bytes).toWords =
      (List.range 13).map fun position => wordAt bytes (4 * position) := rfl
  rw [encode, words, flatMap_wordAt whole]

/--
Records and strings of 52 bytes determine each other. In the bytes of a record the registers
follow the address and the code in their order, each as four bytes, the least significant first.
-/
theorem encode_correspondence :
    (∀ record, decode (encode record) = record) ∧
    (∀ bytes : Vector UInt8 length, encode (decode bytes.toList) = bytes.toList) ∧
    ∀ record, (encode record).length = length ∧ ∀ position : Fin 13, ∀ place : Fin 4,
      (encode record)[4 * position.val + place.val]? = some (UInt8.ofNat
        ([record.address, record.code, record.context.regs.edi, record.context.regs.esi,
          record.context.regs.ebp, record.context.regs.oesp, record.context.regs.ebx,
          record.context.regs.edx, record.context.regs.ecx, record.context.regs.eax,
          record.context.eip, record.context.eflags, record.context.esp][position].toNat /
            256 ^ place.val)) := by
  -- The first two parts are decoding and encoding again; the last one looks up a byte.
  refine ⟨decode_encode, fun bytes => encode_decode bytes.length_toList, fun record =>
    ⟨rfl, fun position place => ?_⟩⟩
  have found : record.toWords[position.val]? = some record.toWords[position.val] :=
    List.getElem?_eq_getElem position.isLt
  rw [encode, getElem?_flatMap_wordBytes _ _ place.isLt, found]
  rfl

end FaultRecord

end Exokernel
