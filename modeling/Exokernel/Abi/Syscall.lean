import Exokernel.Abi.SysError

/-! Numbers and arguments of the system calls. -/

namespace Exokernel

/-- The system calls. -/
inductive Syscall where
  /-- Write user memory to the console. -/
  | writeConsole
  /-- Take one byte of console input. -/
  | readConsole
  /-- Ask for the caller's id. -/
  | currentEnv
  /-- Destroy an environment. -/
  | destroyEnv
  /-- Give up the processor. -/
  | yield
  /-- Create a child that resumes where the caller is. -/
  | fork
  /-- Make an environment runnable or not. -/
  | setStatus
  /-- Map a fresh page. -/
  | allocPage
  /-- Map a page that is mapped elsewhere. -/
  | mapPage
  /-- Remove a mapping. -/
  | unmapPage
  /-- Register a page-fault entry point. -/
  | setFaultEntry
  /-- Wait for a message. -/
  | receive
  /-- Try once to send a message. -/
  | trySend
  /-- Ask for the time since boot. -/
  | time
  deriving DecidableEq

namespace Syscall

/-- Every system call, in the order of their numbers. -/
def all : List Syscall :=
  [writeConsole, readConsole, currentEnv, destroyEnv, yield, fork, setStatus, allocPage, mapPage,
    unmapPage, setFaultEntry, receive, trySend, time]

/-- Number of a system call. -/
def number : Syscall → Word
  -- Numbers are part of the interface, and do not depend on the order here.
  | writeConsole => 0
  | readConsole => 1
  | currentEnv => 2
  | destroyEnv => 3
  | yield => 4
  | fork => 5
  | setStatus => 6
  | allocPage => 7
  | mapPage => 8
  | unmapPage => 9
  | setFaultEntry => 10
  | receive => 11
  | trySend => 12
  | time => 13

/-- The system call with a number. -/
def decode (number : Word) : Except SysError Syscall :=
  -- The list is in the order of the numbers, so a number is a position in it.
  match all[number.toNat]? with
  | some call => .ok call
  | none => .error .invalid

end Syscall

/-- Argument words of a system call, in the order of the registers that carry them. -/
structure Arguments where
  /-- Carried in `edx`. -/
  first : Word := 0
  /-- Carried in `ecx`. -/
  second : Word := 0
  /-- Carried in `ebx`. -/
  third : Word := 0
  /-- Carried in `edi`. -/
  fourth : Word := 0
  /-- Carried in `esi`. -/
  fifth : Word := 0
  deriving DecidableEq

end Exokernel
