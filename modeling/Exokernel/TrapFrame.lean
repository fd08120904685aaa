import Exokernel.Abi.Registers
import Exokernel.Abi.TrapVector
import Exokernel.Text.Hex

/-! The register file that is captured on every entry into the kernel. -/

namespace Exokernel

namespace Selector

/-- Kernel code. -/
def kernelText : UInt16 := 0x08

/-- Kernel data. -/
def kernelData : UInt16 := 0x10

/-- User code. -/
def userText : UInt16 := 0x18

/-- User data. -/
def userData : UInt16 := 0x20

/-- Privilege level of user mode. -/
def userLevel : UInt16 := 3

end Selector

/-- Processor flag: interrupts are enabled. -/
def interruptFlag : Word := 0x200

/-- Registers captured on entry into the kernel. -/
structure TrapFrame where
  /-- Registers that user code controls. -/
  context : UserContext := {}
  /-- Extra data segment. -/
  es : UInt16 := 0
  /-- Data segment. -/
  ds : UInt16 := 0
  /-- Why the kernel was entered. -/
  vector : Word := 0
  /-- Code that the processor gave with the trap, zero if none. -/
  code : Word := 0
  /-- Code segment; its low two bits are the privilege level. -/
  cs : UInt16 := 0
  /-- Stack segment. -/
  ss : UInt16 := 0
  deriving DecidableEq

namespace TrapFrame

/-- Frame from which a new environment starts. -/
def initial : TrapFrame :=
  -- User segments, an empty stack, and interrupts on.
  { context := { esp := stackTop, eflags := interruptFlag }
    es := Selector.userData + Selector.userLevel
    ds := Selector.userData + Selector.userLevel
    cs := Selector.userText + Selector.userLevel
    ss := Selector.userData + Selector.userLevel }

/-- Frame of a trap taken while the kernel itself was executing. -/
def kernel (vector eip : Word) : TrapFrame :=
  -- No general register is looked at in such a frame.
  { context := { eip }
    vector
    es := Selector.kernelData
    ds := Selector.kernelData
    cs := Selector.kernelText
    ss := Selector.kernelData }

/-- The trap came from user mode. -/
def fromUser (frame : TrapFrame) : Bool :=
  frame.cs % 4 == 3

/-- The frame with another result register. -/
def withResult (frame : TrapFrame) (value : Word) : TrapFrame :=
  { frame with context := frame.context.withResult value }

/-- One line of a printed frame: a padded label and a word. -/
def wordLine (label : String) (value : Word) : String :=
  "  " ++ label ++ " " ++ hexAddress value ++ "\n"

/-- One line of a printed frame: a padded label and a selector. -/
def selectorLine (label : String) (value : UInt16) : String :=
  "  " ++ label ++ " 0x" ++ hexFixed 4 value.toNat ++ "\n"

/-- A frame as text, one register a line. -/
def render (frame : TrapFrame) : String :=
  -- The stack registers are only captured when the privilege level changed.
  let regs := frame.context.regs
  let stack :=
    if frame.fromUser then wordLine "esp " frame.context.esp ++ selectorLine "ss  " frame.ss
    else ""
  wordLine "edi " regs.edi ++ wordLine "esi " regs.esi ++ wordLine "ebp " regs.ebp
    ++ wordLine "oesp" regs.oesp ++ wordLine "ebx " regs.ebx ++ wordLine "edx " regs.edx
    ++ wordLine "ecx " regs.ecx ++ wordLine "eax " regs.eax
    ++ selectorLine "es  " frame.es ++ selectorLine "ds  " frame.ds
    ++ "  trap " ++ hexAddress frame.vector ++ " " ++ TrapVector.name frame.vector ++ "\n"
    ++ wordLine "err " frame.code ++ wordLine "eip " frame.context.eip
    ++ selectorLine "cs  " frame.cs ++ wordLine "flag" frame.context.eflags ++ stack

end TrapFrame

end Exokernel
