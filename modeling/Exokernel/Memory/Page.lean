import Exokernel.Layout

/-! The bytes of one page. -/

namespace Exokernel

/-- Contents of a page. -/
abbrev Page := Vector UInt8 pageLength

namespace Page

/-- The page of zeros. -/
def zero : Page := Vector.replicate pageLength 0

/-- Byte at an offset, which counts modulo the page length. -/
def byteAt (page : Page) (offset : Nat) : UInt8 :=
  page.get (Fin.ofNat pageLength offset)

/-- The page with one byte replaced; the offset counts modulo the page length. -/
def setByte (page : Page) (offset : Nat) (byte : UInt8) : Page :=
  -- The index is reduced first, so the update stays within the page.
  let index := Fin.ofNat pageLength offset
  page.set index.val byte index.isLt

/-- The page with bytes replaced from an offset on, as far as the page reaches. -/
def overlay (page : Page) : Nat → List UInt8 → Page
  -- What does not fit the page is dropped.
  | _, [] => page
  | offset, byte :: rest =>
    if offset < pageLength then overlay (page.setByte offset byte) (offset + 1) rest else page

/-- At most `length` bytes from an offset on, as far as the page reaches. -/
def slice (page : Page) (offset length : Nat) : List UInt8 :=
  (page.toList.drop offset).take length

end Page

end Exokernel
