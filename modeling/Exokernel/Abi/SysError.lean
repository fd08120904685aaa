import Exokernel.Layout

/-! Errors that system calls report to environments, and their register encoding. -/

namespace Exokernel

/-- Why the kernel refused a system call. -/
inductive SysError where
  /-- Unknown problem. -/
  | unspecified
  /-- The environment does not exist, or the caller may not touch it. -/
  | badEnv
  /-- An argument is not acceptable. -/
  | invalid
  /-- Physical memory ran out. -/
  | outOfMemory
  /-- Every slot of the environment table is taken. -/
  | noFreeEnv
  /-- User memory could not be reached. -/
  | fault
  /-- The target of a send is not waiting to receive. -/
  | notReceiving
  deriving DecidableEq

namespace SysError

/-- Positive number of an error. -/
def code : SysError → Nat
  -- The codes are handed to user code with the sign reversed.
  | unspecified => 1
  | badEnv => 2
  | invalid => 3
  | outOfMemory => 4
  | noFreeEnv => 5
  | fault => 6
  | notReceiving => 7

/-- Register value of an error: its negated code in two's complement. -/
def toWord (error : SysError) : Word :=
  -- A negated code has the sign bit set, which no result of a successful call should have.
  0 - UInt32.ofNat error.code

/-- The error that a register value stands for; a non-negative value is a result. -/
def ofWord? (word : Word) : Option SysError :=
  -- Negative words without a code of their own still report a failure.
  if word < 0x80000000 then none
  else match (0 - word).toNat with
    | 2 => some badEnv
    | 3 => some invalid
    | 4 => some outOfMemory
    | 5 => some noFreeEnv
    | 6 => some fault
    | 7 => some notReceiving
    | _ => some unspecified

/-- Text of an error. -/
def message : SysError → String
  -- The wording is that of the interface.
  | unspecified => "unspecified error"
  | badEnv => "bad environment"
  | invalid => "invalid parameter"
  | outOfMemory => "out of memory"
  | noFreeEnv => "out of environments"
  | fault => "segmentation fault"
  | notReceiving => "env is not recving"

/-- A result or an error as the word that the caller finds in its result register. -/
def encodeResult : Except SysError Word → Word
  | .ok value => value
  | .error error => error.toWord

end SysError

end Exokernel
