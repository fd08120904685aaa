/-! Reading bytes as UTF-8 text, with every malformed part shown as one replacement character. -/

namespace Exokernel

/-- The character shown for bytes that are no character. -/
def replacementCharacter : Char := '\uFFFD'

/-- A multi-byte character of which some bytes are still missing. -/
structure PartialChar where
  /-- Value of the bits read so far. -/
  value : Nat
  /-- Number of bytes that must follow the next one. -/
  following : Nat
  /-- Least byte that may come next. -/
  low : UInt8
  /-- Greatest byte that may come next. -/
  high : UInt8

/-- What a byte means where a character may start. -/
inductive LeadByte where
  /-- A character of one byte. -/
  | single (char : Char)
  /-- The first byte of a longer character. -/
  | opens (rest : PartialChar)
  /-- No character starts with this byte. -/
  | malformed

/--
Table 3-7 of the Unicode Standard: the second byte's range excludes overlong forms, surrogates
and values past the last plane.
-/
def LeadByte.ofByte (byte : UInt8) : LeadByte :=
  -- Each branch covers the lead bytes up to its bound that no earlier branch took.
  let value := byte.toNat
  if value < 0x80 then .single (Char.ofNat value)
  else if value < 0xC2 then .malformed
  else if value < 0xE0 then .opens ⟨value - 0xC0, 0, 0x80, 0xBF⟩
  else if value = 0xE0 then .opens ⟨0x0, 1, 0xA0, 0xBF⟩
  else if value = 0xED then .opens ⟨0xD, 1, 0x80, 0x9F⟩
  else if value < 0xF0 then .opens ⟨value - 0xE0, 1, 0x80, 0xBF⟩
  else if value = 0xF0 then .opens ⟨0x0, 2, 0x90, 0xBF⟩
  else if value < 0xF4 then .opens ⟨value - 0xF0, 2, 0x80, 0xBF⟩
  else if value = 0xF4 then .opens ⟨0x4, 2, 0x80, 0x8F⟩
  else .malformed

/-- Text read so far, and the character that is still open. -/
structure Utf8Reader where
  /-- The characters that are complete. -/
  text : String := ""
  /-- The character of which bytes are missing. -/
  pending : Option PartialChar := none

namespace Utf8Reader

/-- The reader with one more complete character. -/
def emit (reader : Utf8Reader) (char : Char) : Utf8Reader :=
  { text := reader.text.push char }

/-- Reads a byte where a character may start. -/
def start (reader : Utf8Reader) (byte : UInt8) : Utf8Reader :=
  -- A byte that cannot start a character is replaced alone.
  match LeadByte.ofByte byte with
  | .single char => reader.emit char
  | .opens rest => { reader with pending := some rest }
  | .malformed => reader.emit replacementCharacter

/--
Reads one byte.

An open character that cannot go on becomes one replacement character, and the byte that broke it
is read again as a first byte.
-/
def feed (reader : Utf8Reader) (byte : UInt8) : Utf8Reader :=
  match reader.pending with
  | none => reader.start byte
  | some started =>
    if started.low ≤ byte ∧ byte ≤ started.high then
      -- Each further byte adds six bits, and only the second byte has a range of its own.
      let value := started.value * 64 + byte.toNat % 64
      match started.following with
      | 0 => reader.emit (Char.ofNat value)
      | following + 1 => { reader with pending := some ⟨value, following, 0x80, 0xBF⟩ }
    else (reader.emit replacementCharacter).start byte

/-- The text at the end of the input, which may come inside a character. -/
def finish (reader : Utf8Reader) : String :=
  -- A character that is not complete is replaced as a whole.
  match reader.pending with
  | none => reader.text
  | some _ => reader.text.push replacementCharacter

end Utf8Reader

/-- Text of a byte string, with a replacement character for each maximal malformed part. -/
def decodeUtf8 (bytes : Array UInt8) : String :=
  (bytes.foldl Utf8Reader.feed {}).finish

end Exokernel
