import Exokernel.Abi.Cpu
import Exokernel.Abi.FaultRecord
import Exokernel.User.Error

/-! Programs of user code as trees of requests, each with the answers it may get. -/

namespace Exokernel

/-- What user code asks of its surroundings; handlers are known by names of the type `η`. -/
inductive Request (η : Type) where
  /-- Trap into the kernel. -/
  | syscall (call : Syscall) (words : Arguments)
  /-- Use memory, with page faults sent to the registered handler. -/
  | access (use : Access)
  /-- Use memory as the processor does; a page fault is left to the program. -/
  | rawAccess (use : Access)
  /-- Read the registers. -/
  | context
  /-- Replace the registers. -/
  | setContext (context : UserContext)
  /-- Look at a slot of the environment table. -/
  | envInfo (position : Nat)
  /-- Look at a page-table entry. -/
  | pageEntry (page : Word)
  /-- Look at a page-directory entry. -/
  | tableEntry (index : Word)
  /-- Ask which page-fault handler is registered. -/
  | handler
  /-- Register a page-fault handler, or go back to having none. -/
  | setHandler (handler : Option η)

/-- What answers a request. -/
abbrev Request.Answer {η : Type} : Request η → Type
  | syscall _ _ => Except Trapped Word
  | access _ => Except UserError (List UInt8)
  | rawAccess _ => Except Trapped (List UInt8)
  | context => UserContext
  | setContext _ => Unit
  | envInfo _ => EnvInfo
  | pageEntry _ => Word
  | tableEntry _ => Word
  | handler => Option η
  | setHandler _ => Unit

/-- A program that makes requests and ends with a value. -/
inductive UserCode (η α : Type) : Type where
  /-- The program is over. -/
  | done (value : α)
  /-- The program ran out of the attempts it was allowed. -/
  | exhausted
  /-- The program makes a request and goes on with the answer. -/
  | ask (request : Request η) (next : request.Answer → UserCode η α)

namespace UserCode

variable {η α β : Type}

/-- One program after another. -/
def bind : UserCode η α → (α → UserCode η β) → UserCode η β
  -- The second program is put at every end of the first one.
  | done value, after => after value
  | exhausted, _ => exhausted
  | ask request next, after => ask request fun answer => (next answer).bind after

/-- Programs follow one another as the steps of a monad do. -/
instance : Monad (UserCode η) where
  pure := done
  bind := bind

/-- The program that makes one request. -/
def perform (request : Request η) : UserCode η request.Answer :=
  ask request done

/--
Runs a program, with every request answered from a state that each answer may change.

There is no outcome when the program or an answer runs out of the attempts it was allowed.
-/
def run {σ : Type} (reply : (request : Request η) → σ → Option (request.Answer × σ)) :
    UserCode η α → σ → Option (α × σ)
  -- The recursion is on the program, which is as deep as its longest run.
  | done value, state => some (value, state)
  | exhausted, _ => none
  | ask request next, state =>
    match reply request state with
    | some (answer, state) => (next answer).run reply state
    | none => none

/-- Running one program after another runs the second where the first ended. -/
theorem run_bind {σ : Type}
    (reply : (request : Request η) → σ → Option (request.Answer × σ))
    (program : UserCode η α) (after : α → UserCode η β) (state : σ) :
    (program >>= after).run reply state =
      (program.run reply state).bind fun (value, state) => (after value).run reply state := by
  -- Both sides ask the same requests until the first program ends or runs out of attempts.
  change (program.bind after).run reply state = _
  induction program generalizing state with
  | done value => rfl
  | exhausted => rfl
  | ask request next ih =>
    simp only [bind, run]
    cases reply request state with
    | none => rfl
    | some outcome => exact ih outcome.1 outcome.2

/-- Programs that end at once are the units of sequencing, and sequencing is associative. -/
instance : LawfulMonad (UserCode η) :=
  LawfulMonad.mk' (UserCode η)
    (fun program => by
      induction program with
      | done value => rfl
      | exhausted => rfl
      | ask request next ih => exact congrArg (ask request) (funext ih))
    (fun _ _ => rfl)
    (fun program _ _ => by
      induction program with
      | done value => rfl
      | exhausted => rfl
      | ask request next ih => exact congrArg (ask request) (funext ih))

end UserCode

/-- A program that may fail. -/
abbrev Program (η : Type) := ExceptT UserError (UserCode η)

namespace Program

variable {η : Type}

/-- Makes one request. -/
def ask (request : Request η) : Program η request.Answer :=
  ExceptT.lift (UserCode.perform request)

/-- Reads memory. -/
def load (va : Address) (length : Nat) : Program η (List UInt8) :=
  ExceptT.mk (UserCode.perform (.access (.load va length)))

/-- Writes memory. -/
def store (va : Address) (data : List UInt8) : Program η Unit := do
  let _ ← ExceptT.mk (UserCode.perform (.access (.store va data)))

/-- Gives up after too many attempts. -/
def exhausted {α : Type} : Program η α :=
  ExceptT.mk UserCode.exhausted

end Program

end Exokernel
