import Exokernel.Layout

/-! Time since boot, counted in timer interrupts. -/

namespace Exokernel

/-- A counter of timer ticks of fixed length. -/
structure Clock where
  /-- Milliseconds per tick. -/
  period : Word
  /-- Ticks since boot. -/
  ticks : UInt64 := 0

namespace Clock

/-- One tick later. -/
def tick (clock : Clock) : Clock :=
  { clock with ticks := clock.ticks + 1 }

/-- Milliseconds since boot, as far as a register holds them. -/
def milliseconds (clock : Clock) : Word :=
  (clock.ticks * clock.period.toUInt64).toUInt32

end Clock

end Exokernel
