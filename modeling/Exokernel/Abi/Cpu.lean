import Exokernel.Abi.EnvInfo
import Exokernel.Abi.Registers
import Exokernel.Abi.Syscall

/-! The processor as an environment sees it: system calls, memory accesses and read-only views. -/

namespace Exokernel

/-- Why an operation of user code did not complete in place. -/
inductive Trapped where
  /-- The environment goes on at its fault entry point, with a fault record on its stack. -/
  | upcall
  /-- The environment does not own the processor any more. -/
  | descheduled
  deriving DecidableEq

/-- A use of user memory. -/
inductive Access where
  /-- Read bytes. -/
  | load (va : Address) (length : Nat)
  /-- Write bytes. -/
  | store (va : Address) (data : List UInt8)

/-- What user code can do with a processor in the state `σ`. -/
class Cpu (σ : Type) where
  /-- Traps into the kernel, and gives the result once the environment goes on in place. -/
  syscall : σ → Syscall → Arguments → Except Trapped Word × σ
  /-- Uses memory; a load gives the bytes read, and a store gives none. -/
  access : σ → Access → Except Trapped (List UInt8) × σ
  /-- The registers. -/
  context : σ → UserContext
  /-- Replaces the registers. -/
  setContext : σ → UserContext → σ
  /-- View of a slot of the environment table. -/
  envInfo : σ → Nat → EnvInfo
  /-- Raw page-table entry of a page number, zero if the page is not mapped. -/
  pageEntry : σ → Word → Word
  /-- Raw page-directory entry of a table index, zero if there is no table. -/
  tableEntry : σ → Word → Word

end Exokernel
