import Exokernel.Layout

/-! Vector numbers of exceptions and interrupts. -/

namespace Exokernel.TrapVector

/-- Division failed. -/
def divide : Word := 0

/-- Single step. -/
def debug : Word := 1

/-- Interrupt that cannot be masked. -/
def nonMaskable : Word := 2

/-- Breakpoint. -/
def breakpoint : Word := 3

/-- Arithmetic overflow trap. -/
def overflow : Word := 4

/-- Bounds check. -/
def bounds : Word := 5

/-- Undefined instruction. -/
def invalidOpcode : Word := 6

/-- Coprocessor not available. -/
def deviceMissing : Word := 7

/-- Exception while another was being delivered. -/
def doubleFault : Word := 8

/-- Bad task switch segment. -/
def taskSegment : Word := 10

/-- Absent segment. -/
def segmentMissing : Word := 11

/-- Stack exception. -/
def stackFault : Word := 12

/-- General protection. -/
def generalProtection : Word := 13

/-- Refused memory access. -/
def pageFault : Word := 14

/-- Floating-point error. -/
def floatingPoint : Word := 16

/-- Alignment check. -/
def alignment : Word := 17

/-- Machine check. -/
def machineCheck : Word := 18

/-- Vector floating-point error. -/
def vectorFloatingPoint : Word := 19

/-- System call. -/
def systemCall : Word := 48

/-- Vector of the first interrupt line. -/
def irqBase : Word := 32

/-- Interrupt line of the timer. -/
def timerLine : Word := 0

/-- Interrupt line of the keyboard. -/
def keyboardLine : Word := 1

/-- Interrupt line of the serial console. -/
def serialLine : Word := 4

/-- Interrupt line on which noise arrives. -/
def spuriousLine : Word := 7

/-- Names of the processor exceptions, by vector. -/
def exceptionNames : List String :=
  -- The names are those of the processor manual.
  ["Divide error", "Debug", "Non-Maskable Interrupt", "Breakpoint", "Overflow",
    "BOUND Range Exceeded", "Invalid Opcode", "Device Not Available", "Double Fault",
    "Coprocessor Segment Overrun", "Invalid TSS", "Segment Not Present", "Stack Fault",
    "General Protection", "Page Fault", "(unknown trap)", "x87 FPU Floating-Point Error",
    "Alignment Check", "Machine-Check", "SIMD Floating-Point Exception"]

/-- Name of a vector. -/
def name (vector : Word) : String :=
  -- Exceptions come first, then the sixteen interrupt lines, then the system call.
  match exceptionNames[vector.toNat]? with
  | some exception => exception
  | none =>
    if vector = systemCall then "System call"
    else if irqBase ≤ vector ∧ vector < irqBase + 16 then "Hardware Interrupt"
    else "(unknown trap)"

end Exokernel.TrapVector
