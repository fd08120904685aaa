import Exokernel.Layout

/-! The registers that user code can see and change. -/

namespace Exokernel

/-- General-purpose registers, in the order in which they are pushed. -/
structure Registers where
  edi : Word := 0
  esi : Word := 0
  ebp : Word := 0
  /-- Stack pointer slot that is pushed but never restored. -/
  oesp : Word := 0
  ebx : Word := 0
  edx : Word := 0
  ecx : Word := 0
  eax : Word := 0
  deriving DecidableEq

/-- Registers as words in the order in which they are pushed. -/
def Registers.toWords (regs : Registers) : List Word :=
  [regs.edi, regs.esi, regs.ebp, regs.oesp, regs.ebx, regs.edx, regs.ecx, regs.eax]

/-- The part of the register file that user code controls. -/
structure UserContext where
  /-- General-purpose registers. -/
  regs : Registers := {}
  /-- Instruction pointer. -/
  eip : Word := 0
  /-- Processor flags. -/
  eflags : Word := 0
  /-- Stack pointer. -/
  esp : Word := 0
  deriving DecidableEq

/-- The context with another result register. -/
def UserContext.withResult (context : UserContext) (value : Word) : UserContext :=
  { context with regs := { context.regs with eax := value } }

end Exokernel
