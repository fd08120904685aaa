import Exokernel.User.Faults

/-! Forking an environment whose pages are copied only when one side writes to them. -/

namespace Exokernel

/-- Which side of a fork the caller is on. -/
inductive ForkSide where
  /-- In the parent, with the child's id. -/
  | parentOf (child : EnvId)
  /-- In the child. -/
  | child
  deriving DecidableEq

namespace Program

variable {η : Type}

/-- A raw table entry is in use. -/
def isPresent (entry : Word) : Bool :=
  (⟨entry⟩ : PageFlags).contains .present

/-- Permission of the caller's page at an address, empty if nothing is mapped there. -/
def permissionAt (va : Address) : Program η PageFlags := do
  -- The page-table entry may only be looked at where there is a page table.
  if isPresent (← ask (.tableEntry (tableIndex va))) then
    let entry ← ask (.pageEntry (pageNumber va))
    return ⟨entry &&& PageFlags.permitted.bits⟩
  else return .empty

/--
Handles a write to a copy-on-write page: the page is copied to a scratch page, which then takes
the place of the shared one.
-/
def copyOnWrite (fault : FaultRecord) : Program η Unit := do
  let va := pageBase fault.address
  let foreign := UserError.notCopyOnWrite fault.address fault.code
  if fault.code &&& writeFault = 0 then throw foreign
  unless (← permissionAt va).contains .copyOnWrite do throw foreign
  -- The copy is made at another address, as the page itself cannot be written.
  allocPage .self copyPage .readWrite
  store copyPage (← load va pageLength)
  mapPage .self copyPage .self va .readWrite
  unmapPage .self copyPage

/-- Shares a page with a child: a page that either side could write becomes copy-on-write. -/
def sharePage (child : EnvId) (page : Word) : Program η Unit := do
  let va := page * pageSize
  let flags ← permissionAt va
  if flags.intersects (.writable ||| .copyOnWrite) then
    let shared := flags.without .writable ||| .copyOnWrite
    -- The child goes first: the caller may be running on this very page.
    mapPage .self va child va shared
    mapPage .self va .self va shared
  else mapPage .self va child va flags

/-- Shares a page with a child if it is mapped for user mode. -/
def shareIfMapped (child : EnvId) (page : Word) : Program η Unit := do
  if (⟨← ask (.pageEntry page)⟩ : PageFlags).contains .required then sharePage child page

/-- Page numbers that one page table covers, below the end of the normal stack. -/
def pagesOfTable (index : Nat) : List Word :=
  let first := index * tableEntries
  -- The last table reaches beyond the stack, and is cut there.
  let last := min (first + tableEntries) (pageNumber stackTop).toNat
  (List.range (last - first)).map fun offset => UInt32.ofNat (first + offset)

/-- Shares every page that one page table covers. -/
def shareTable (child : EnvId) (index : Nat) : Program η Unit := do
  if isPresent (← ask (.tableEntry (UInt32.ofNat index))) then
    (pagesOfTable index).forM (shareIfMapped child)

/--
Shares every page below the end of the normal stack, and gives the child its own exception stack.
-/
def shareSpace (child : EnvId) : Program η Unit := do
  (List.range ((tableIndex (stackTop - 1)).toNat + 1)).forM (shareTable child)
  allocPage child (exceptionStackTop - pageSize) .readWrite

/-- Makes a child complete: its pages, its fault entry point, and only then its start. -/
def prepareChild (child : EnvId) : Program η Unit := do
  -- Once it is runnable, the child may be scheduled at any time.
  shareSpace child
  setFaultEntry child (← ownInfo).faultEntry
  setStatus child .runnable

/--
Duplicates the calling environment, with `onWrite` as the handler that copies shared pages.

The child goes on from the same call. A child that cannot be completed is destroyed again.
-/
def fork (onWrite : η) : Program η ForkSide := do
  registerHandler onWrite
  let child ← forkEnv
  if child.isSelf then return .child
  tryCatch (prepareChild child) fun failure => do
    -- What cannot be destroyed is given up, and the first failure is the one reported.
    tryCatch (destroyEnv child) fun _ => return ()
    throw failure
  return .parentOf child

end Program

end Exokernel
