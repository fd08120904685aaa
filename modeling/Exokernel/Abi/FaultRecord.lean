import Exokernel.Abi.Registers

/-! The record of a page fault that the kernel leaves on the exception stack. -/

namespace Exokernel

/-- A page fault as user code sees it. -/
structure FaultRecord where
  /-- Address whose use was refused. -/
  address : Address := 0
  /-- Fault code: which kind of use was refused, and why. -/
  code : Word := 0
  /-- Registers at the fault. -/
  context : UserContext := {}
  deriving DecidableEq

/-- Fault code bit: the page was present, and its protection refused the use. -/
def protectionFault : Word := 1

/-- Fault code bit: the use was a write. -/
def writeFault : Word := 2

/-- Fault code bit: the use came from user mode. -/
def userFault : Word := 4

/-- Bytes of a word, least significant first. -/
def wordBytes (word : Word) : List UInt8 :=
  [word.toUInt8, (word >>> 8).toUInt8, (word >>> 16).toUInt8, (word >>> 24).toUInt8]

/-- The word whose bytes stand at an offset, least significant first; missing bytes are zero. -/
def wordAt (bytes : List UInt8) (offset : Nat) : Word :=
  -- Each byte lands in its own eight bits.
  let byte (i : Nat) : Word := (bytes.getD (offset + i) 0).toUInt32
  byte 0 ||| byte 1 <<< 8 ||| byte 2 <<< 16 ||| byte 3 <<< 24

namespace FaultRecord

/-- Number of bytes of an encoded record. -/
abbrev length : Nat := 52

/-- Number of bytes of an encoded record, as an address offset. -/
abbrev size : Address := 52

/-- The words of a record in the order in which they are stored. -/
def toWords (record : FaultRecord) : List Word :=
  [record.address, record.code] ++ record.context.regs.toWords
    ++ [record.context.eip, record.context.eflags, record.context.esp]

/-- A record as bytes. -/
def encode (record : FaultRecord) : List UInt8 :=
  -- Every word takes four bytes, so word `i` starts at four times `i`.
  record.toWords.flatMap wordBytes

/-- The record that bytes encode. -/
def decode (bytes : List UInt8) : FaultRecord :=
  -- Word `i` stands at four times `i`, in the order of `toWords`.
  let word (i : Nat) := wordAt bytes (4 * i)
  { address := word 0
    code := word 1
    context :=
      { regs :=
          { edi := word 2, esi := word 3, ebp := word 4, oesp := word 5
            ebx := word 6, edx := word 7, ecx := word 8, eax := word 9 }
        eip := word 10
        eflags := word 11
        esp := word 12 } }

end FaultRecord

end Exokernel
