/-! Hexadecimal text of words: fixed width for addresses and ids, shortest for codes. -/

namespace Exokernel

/-- The digit of `value` in base sixteen that has `place` digits to its right. -/
def hexDigitAt (value place : Nat) : Char :=
  -- Shifting drops the digits to the right, and the remainder drops those to the left.
  Nat.digitChar (value >>> (4 * place) % 16)

/-- The `width` lowest hexadecimal digits of a value, most significant first. -/
def hexFixed (width value : Nat) : String :=
  -- Places count down, so the text reads from the highest place.
  String.ofList ((List.range width).reverse.map (hexDigitAt value))

/-- The hexadecimal digits of a value without leading zeros; zero has one digit. -/
def hexShortest (value : Nat) : String :=
  String.ofList (Nat.toDigits 16 value)

/-- An address is written as `0x` and eight digits. -/
def hexAddress (address : UInt32) : String :=
  "0x" ++ hexFixed 8 address.toNat

end Exokernel
