import Exokernel.User.Fork

/-! The page-fault handlers that come with the user library. -/

namespace Exokernel

/-- Names of the handlers. -/
inductive FaultPolicy where
  /-- Copy a shared page when it is written. -/
  | copyOnWrite
  /-- Map a fresh page wherever one is missing. -/
  | demandZero
  /-- Map a fresh page, and first use the next one if the fault is on the first scratch page. -/
  | touchNext
  /-- Handle nothing. -/
  | refuse
  deriving DecidableEq

namespace FaultPolicy

/-- Maps a fresh page where the fault was. -/
def mapZero {η : Type} (fault : FaultRecord) : Program η Unit :=
  Program.allocPage .self (pageBase fault.address) .readWrite

/-- What is written to the next page before the first scratch page is mapped. -/
def innerBytes : List UInt8 :=
  "inner".toUTF8.toList

/-- A fault on the first scratch page raises another one, on the next page, before it is served. -/
def mapAfterNext {η : Type} (fault : FaultRecord) : Program η Unit := do
  -- Its own store is what faults, on a page that has not been mapped yet.
  if pageBase fault.address = scratchStart then
    Program.store (scratchStart + pageSize) innerBytes
  mapZero fault

/-- What each handler does. -/
def handlers : Handlers FaultPolicy
  -- A handler that refuses is one that fails at once.
  | copyOnWrite, fault => Program.copyOnWrite fault
  | demandZero, fault => mapZero fault
  | touchNext, fault => mapAfterNext fault
  | refuse, fault => throw (.noHandler fault.address)

end FaultPolicy

end Exokernel
