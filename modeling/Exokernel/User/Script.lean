import Exokernel.Abi.Cpu

/-! A processor that answers from a script and keeps a record of what it was asked. -/

namespace Exokernel

/-- One operation that was asked of a scripted processor. -/
inductive RecordedCall where
  /-- A system call. -/
  | syscall (call : Syscall) (words : Arguments)
  /-- A read of memory. -/
  | load (va : Address) (length : Nat)
  /-- A write to memory. -/
  | store (va : Address) (data : List UInt8)
  /-- A change of the registers. -/
  | setContext (context : UserContext)

/-- A processor with prepared answers. -/
structure Script where
  /-- Results of the next system calls; afterwards each gives zero. -/
  results : List (Except Trapped Word) := []
  /-- Bytes that the next loads find first; afterwards there are only zeros. -/
  loads : List (Except Trapped (List UInt8)) := []
  /-- Outcomes of the next stores; afterwards each succeeds. -/
  stores : List (Except Trapped Unit) := []
  /-- The registers. -/
  context : UserContext := {}
  /-- Page-table entries by page number; others are zero. -/
  pageEntries : List (Word × Word) := []
  /-- Page-directory entries by table index; others are zero. -/
  tableEntries : List (Word × Word) := []
  /-- What every slot of the environment table shows, its id aside. -/
  info : EnvInfo := {}
  /-- What was asked so far, oldest first. -/
  calls : Array RecordedCall := #[]

namespace Script

/-- Adds to the record of what was asked. -/
def note (script : Script) (call : RecordedCall) : Script :=
  { script with calls := script.calls.push call }

/-- Exactly `length` bytes: what is missing is zero, and what is too much is left out. -/
def fitted (bytes : List UInt8) (length : Nat) : List UInt8 :=
  bytes.take length ++ List.replicate (length - bytes.length) 0

/-- Answers a system call. -/
def syscall (script : Script) (call : Syscall) (words : Arguments) :
    Except Trapped Word × Script :=
  let script := script.note (.syscall call words)
  -- Zero is the answer once the script has run out.
  match script.results with
  | [] => (.ok 0, script)
  | result :: results => (result, { script with results })

/-- Answers a read of memory. -/
def load (script : Script) (va : Address) (length : Nat) :
    Except Trapped (List UInt8) × Script :=
  let script := script.note (.load va length)
  -- Zeros are read once the script has run out.
  match script.loads with
  | [] => (.ok (fitted [] length), script)
  | outcome :: loads => (outcome.map (fitted · length), { script with loads })

/-- Answers a write to memory. -/
def store (script : Script) (va : Address) (data : List UInt8) : Except Trapped Unit × Script :=
  let script := script.note (.store va data)
  -- Stores succeed once the script has run out.
  match script.stores with
  | [] => (.ok (), script)
  | outcome :: stores => (outcome, { script with stores })

/-- A script is a processor whose answers are given beforehand. -/
instance : Cpu Script where
  syscall := syscall
  access
    | script, .load va length => script.load va length
    | script, .store va data =>
      let (outcome, script) := script.store va data
      (outcome.map fun () => [], script)
  context := Script.context
  setContext script context := { script.note (.setContext context) with context }
  envInfo script position := { script.info with id := ⟨UInt32.ofNat position⟩ }
  pageEntry script page := (script.pageEntries.lookup page).getD 0
  tableEntry script index := (script.tableEntries.lookup index).getD 0

end Script

end Exokernel
