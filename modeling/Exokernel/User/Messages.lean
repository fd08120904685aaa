import Exokernel.User.Calls

/-! Sending and receiving messages from user code. -/

namespace Exokernel

/-- A received message. -/
structure Message where
  /-- Sender. -/
  sender : EnvId
  /-- The message. -/
  value : Word
  /-- Permission of the page that came with it, empty if none did. -/
  permission : PageFlags
  deriving DecidableEq

namespace Program

variable {η : Type}

/-- Runs a program with its failure as a value. -/
def observe {α : Type} (program : Program η α) : Program η (Except UserError α) :=
  ExceptT.lift program.run

/--
Sends a message, and a page if one is given; tells whether the page went along.

Between attempts the processor is offered to others. Losing it ends the send, to be started again
later; after `attempts` attempts without losing it there is no outcome.
-/
def send (env : EnvId) (value : Word) (page : Option (Address × PageFlags)) :
    Nat → Program η Bool
  | 0 => exhausted
  | attempts + 1 => do
    -- An address beyond user memory stands for no page.
    let (va, flags) := page.getD (userTop, .empty)
    match ← observe (trySend env value va flags) with
    | .error (.kernel .notReceiving) =>
      yield
      send env value page attempts
    | .error error => throw error
    | .ok sent => return sent

/-- Waits for a message, and for a page with it if an address is given. -/
def receive (va : Option Address) : Program η Unit :=
  -- The call gives the processor away, so losing it is the normal outcome.
  tryCatch (receiveAt (va.getD userTop)) fun
    | .descheduled => return ()
    | error => throw error

/-- The last message that the calling environment received. -/
def received : Program η Message := do
  let info ← ownInfo
  return { sender := info.sender, value := info.value, permission := info.permission }

end Program

end Exokernel
