import Exokernel.User.Code

/-! System calls with their results read as what they mean. -/

namespace Exokernel.Program

variable {η : Type}

/-- Makes a system call; a negative result is the kernel's refusal. -/
def call (number : Syscall) (words : Arguments) : Program η Word := do
  -- Whoever loses the processor in a call does not learn its answer.
  match ← ask (.syscall number words) with
  | .error _ => throw .descheduled
  | .ok word =>
    match SysError.ofWord? word with
    | some error => throw (.kernel error)
    | none => return word

/-- Makes a system call that has no result but its success. -/
def command (number : Syscall) (words : Arguments) : Program η Unit := do
  let _ ← call number words

/-- Writes memory to the console. -/
def writeConsole (va length : Word) : Program η Unit :=
  command .writeConsole { first := va, second := length }

/-- Takes one byte of console input, if one waits. -/
def readConsole : Program η (Option UInt8) := do
  let byte ← call .readConsole {}
  return if byte = 0 then none else some byte.toUInt8

/-- Id of the calling environment. -/
def currentEnv : Program η EnvId := do
  return ⟨← call .currentEnv {}⟩

/-- Destroys the caller or a child. -/
def destroyEnv (env : EnvId) : Program η Unit :=
  command .destroyEnv { first := env.raw }

/-- Offers the processor to the next environment. -/
def yield : Program η Unit :=
  command .yield {}

/-- Creates a blocked child; in the child the result is the id that means oneself. -/
def forkEnv : Program η EnvId := do
  return ⟨← call .fork {}⟩

/-- Makes an environment runnable or not. -/
def setStatus (env : EnvId) (status : Status) : Program η Unit :=
  command .setStatus { first := env.raw, second := status.toWord }

/-- Registers the page-fault entry point of an environment; zero removes it. -/
def setFaultEntry (env : EnvId) (entry : Address) : Program η Unit :=
  command .setFaultEntry { first := env.raw, second := entry }

/-- Maps a fresh page. -/
def allocPage (env : EnvId) (va : Address) (flags : PageFlags) : Program η Unit :=
  command .allocPage { first := env.raw, second := va, third := flags.bits }

/-- Maps a page of one environment in another. -/
def mapPage (source : EnvId) (sourceVa : Address) (target : EnvId) (targetVa : Address)
    (flags : PageFlags) : Program η Unit :=
  -- Both environments go by their ids, each before its address.
  command .mapPage
    { first := source.raw, second := sourceVa, third := target.raw, fourth := targetVa
      fifth := flags.bits }

/-- Removes a mapping. -/
def unmapPage (env : EnvId) (va : Address) : Program η Unit :=
  command .unmapPage { first := env.raw, second := va }

/-- Tries once to send a message, and tells whether a page went with it. -/
def trySend (env : EnvId) (value : Word) (va : Address) (flags : PageFlags) : Program η Bool := do
  let sent ← call .trySend
    { first := env.raw, second := value, third := va, fourth := flags.bits }
  -- Zero means that the message went alone.
  return sent == 1

/-- Waits for a message; an address past user memory refuses pages. -/
def receiveAt (va : Address) : Program η Unit :=
  command .receive { first := va }

/-- Milliseconds since boot. -/
def time : Program η Word :=
  call .time {}

/-- The kernel's view of the calling environment. -/
def ownInfo : Program η EnvInfo := do
  let id ← currentEnv
  ask (.envInfo id.slot.val)

end Exokernel.Program
