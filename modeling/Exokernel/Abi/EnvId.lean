import Exokernel.Layout
import Exokernel.Text.Hex

/-! Environment ids: a table slot in the low bits and a generation above it. -/

namespace Exokernel

/-- Number of low id bits that hold the slot. -/
abbrev slotBits : Nat := 10

/-- Number of slots in the environment table. -/
abbrev slotCount : Nat := 1024

/-- Position of the generation within an id. -/
abbrev generationShift : Nat := 12

/-- A slot of the environment table. -/
abbrev Slot := Fin slotCount

/-- The slot at a position; positions count modulo the number of slots. -/
def slotAt (position : Nat) : Slot :=
  ⟨position % slotCount, Nat.mod_lt _ (by decide)⟩

/-- Slot of the idle environment, which runs only when nothing else can. -/
def idleSlot : Slot := slotAt 0

/-- Name of an environment; the zero id names whoever uses it. -/
structure EnvId where
  /-- Register encoding. -/
  raw : Word
  deriving DecidableEq

namespace EnvId

/-- The id by which an environment names itself. -/
def self : EnvId := ⟨0⟩

/-- An id names its user when it is zero. -/
def isSelf (id : EnvId) : Bool :=
  -- No environment ever has the zero id, so it is free to mean its user.
  id.raw == 0

/-- Slot that an id points to. -/
def slot (id : EnvId) : Slot :=
  -- The slot is the low part of the word.
  slotAt id.raw.toNat

/-- Generation bits of an id, in place. -/
def generation (id : EnvId) : Word :=
  -- Bits between the slot and the generation belong to neither.
  id.raw - id.raw % 0x1000

/--
The generation that follows the one of `previous`, in place.

The sign bit stays clear and the word stays nonzero, so an id of the new generation is neither an
error code nor the id that means oneself.
-/
def nextGeneration (previous : EnvId) : Word :=
  -- One generation later, with the slot bits cleared.
  let advanced := previous.raw + 0x1000
  let candidate := advanced - advanced % 1024
  -- Zero and the negative words start the count again at generation one.
  if candidate = 0 ∨ 0x80000000 ≤ candidate then 0x1000 else candidate

/-- The id that follows `previous` in the position with the given number. -/
def nextAt (previous : EnvId) (position : Word) : EnvId :=
  ⟨previous.nextGeneration ||| position⟩

/-- The id that a slot gets when it is used again after `previous`. -/
def next (previous : EnvId) (slot : Slot) : EnvId :=
  previous.nextAt (UInt32.ofNat slot.val)

/-- An id is written as eight hexadecimal digits. -/
def render (id : EnvId) : String :=
  hexFixed 8 id.raw.toNat

end EnvId

end Exokernel
