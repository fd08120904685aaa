import Exokernel.Kernel.Paging

/-! Sending a word, and perhaps a page, to an environment that waits for it. -/

namespace Exokernel.Kernel

/-- A message that can be delivered. -/
structure Delivery where
  /-- Slot of the receiver. -/
  receiver : Slot
  /-- Id of the sender. -/
  sender : EnvId
  /-- The message. -/
  value : Word
  /-- The page that goes with it. -/
  page : Option PlannedMapping

/-- The page that a request sends along, if it sends one and the receiver takes pages. -/
def resolvePage (kernel : Kernel) (sender receiver : Slot) (request : SendRequest) :
    Except SysError (Option PlannedMapping) := do
  -- A page that the receiver refuses is not even looked at.
  if request.sourceVa < userTop then
    match (kernel.envAt receiver).mailbox.landing with
    | some landing =>
      let page ← checkPage request.sourceVa
      let flags ← checkPermission request.flags
      let sourceSpace ← kernel.spaceOf sender
      let space ← kernel.spaceOf receiver
      let frame ← kernel.shareable sourceSpace page flags
      return some { space, va := landing, frame, flags }
    | none => return none
  else return none

/-- The delivery that a request asks for, if the receiver waits and the page may be passed on. -/
def resolveSend (kernel : Kernel) (request : SendRequest) : Except SysError Delivery := do
  let sender ← kernel.owner
  -- Anyone may send to anyone who waits.
  let receiver ← kernel.envs.find request.target (some sender)
  unless (kernel.envAt receiver).awaitsMessage do throw .notReceiving
  let page ← kernel.resolvePage sender receiver request
  return { receiver, sender := (kernel.envAt sender).id, value := request.value, page }

/-- Puts the page of a message, if there is one, in the receiver's space. -/
def Delivery.placePage (delivery : Delivery) (memory : Memory) : Except SysError Unit × Memory :=
  -- A page that the receiver has there is replaced.
  match delivery.page with
  | none => (.ok (), memory)
  | some planned => planned.replace memory

/-- Permission of the page that goes with a message, empty if none does. -/
def Delivery.permission (delivery : Delivery) : PageFlags :=
  -- It is told to the receiver, who learns in this way that a page has come.
  match delivery.page with
  | some planned => planned.flags
  | none => .empty

/-- The receiver with the message in its mailbox: runnable again, its receive call answered. -/
def Delivery.accept (delivery : Delivery) (env : Env) : Env :=
  -- The receiver is found waiting only once, so each receive gets one message.
  { env.withResult 0 with
    status := .runnable
    mailbox :=
      { env.mailbox with
        receiving := false
        sender := delivery.sender
        value := delivery.value
        permission := delivery.permission } }

/-- Tries once to send a message; the result is one if a page went with it, and zero if not. -/
def trySend (kernel : Kernel) (request : SendRequest) : Except SysError Word × Kernel :=
  match kernel.resolveSend request with
  | .error error => (.error error, kernel)
  | .ok delivery =>
    -- The receiver hears of the message only after its page is in place.
    match delivery.placePage kernel.memory with
    | (.error error, memory) => (.error error, { kernel with memory })
    | (.ok (), memory) =>
      let kernel := { kernel with memory }.modifyEnv delivery.receiver delivery.accept
      (.ok (if delivery.permission.isEmpty then 0 else 1), kernel)

/-- Where a receiver takes a page: an address past user memory refuses pages. -/
def resolveLanding (va : Address) : Except SysError (Option Address) := do
  -- An address in user memory has to be that of a page.
  if va < userTop then
    let page ← checkPage va
    return some page.address
  else return none

/-- Blocks the current environment until a message arrives. -/
def receive (kernel : Kernel) (va : Address) : Except SysError Unit × Kernel :=
  -- The answer that the caller sees is the one that a delivery puts in its register.
  match kernel.owner, resolveLanding va with
  | .ok slot, .ok landing => (.ok (), kernel.modifyEnv slot (·.waiting landing))
  | .error error, _ | _, .error error => (.error error, kernel)

end Exokernel.Kernel
