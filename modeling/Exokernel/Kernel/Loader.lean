import Exokernel.Kernel.Lifecycle

/-! Program images, and the environments that are created from them. -/

namespace Exokernel

/-- A contiguous part of a program. -/
structure Segment where
  /-- Address of the first byte. -/
  va : Address
  /-- The first bytes of the segment. -/
  data : List UInt8
  /-- Size in memory; bytes past the data are zero. -/
  length : Word
  /-- The program may write to the segment. -/
  writable : Bool := false

/-- A program that is ready to be loaded. -/
structure ProgramImage where
  /-- Where execution starts. -/
  entry : Address
  /-- The parts of the program, in loading order. -/
  segments : List Segment

/-- Why an environment could not be created from an image. -/
inductive LoadError where
  /-- A segment reaches past user memory, or wraps around. -/
  | outOfRange (va : Address)
  /-- A segment has more data than memory. -/
  | fileLargerThanMemory (va : Address)
  /-- The environment or its memory could not be allocated. -/
  | env (cause : SysError)
  deriving DecidableEq

/-- Text of a loading failure. -/
def LoadError.message : LoadError → String
  -- Whatever goes wrong with the environment itself has its own text.
  | outOfRange va => "segment at " ++ hexAddress va ++ " reaches beyond user space"
  | fileLargerThanMemory va =>
    "segment at " ++ hexAddress va ++ " has more file bytes than memory"
  | env cause => cause.message

/-- Permission with which a segment's pages are mapped. -/
def Segment.permission (segment : Segment) : PageFlags :=
  if segment.writable then .readWrite else .required

/-- The image's own limits on a segment. -/
def Segment.check (segment : Segment) : Except LoadError Unit :=
  -- The end is computed without wrapping, so a segment that wraps lies out of range.
  if userTop.toNat < segment.va.toNat + segment.length.toNat then .error (.outOfRange segment.va)
  else if segment.length.toNat < segment.data.length then
    .error (.fileLargerThanMemory segment.va)
  else .ok ()

/-- The bytes of a segment in memory: its data, and zeros up to its length. -/
def Segment.contents (segment : Segment) : List UInt8 :=
  -- Zeros are written too, since an earlier segment may share the page.
  segment.data ++ List.replicate (segment.length.toNat - segment.data.length) 0

namespace Memory

/-- Maps a fresh page at each of `count` pages from `page` on where nothing is mapped yet. -/
def backPages (space : SpaceHandle) (flags : PageFlags) :
    Nat → Address → Memory → Except SysError Unit × Memory
  -- A page that an earlier segment brought keeps its frame and its permission.
  | 0, _, memory => (.ok (), memory)
  | count + 1, page, memory =>
    match memory.entryAt? space page with
    | some _ => backPages space flags count (page + pageSize) memory
    | none =>
      match memory.mapFresh space page flags with
      | (.error error, memory) => (.error error, memory)
      | (.ok (), memory) => backPages space flags count (page + pageSize) memory

/-- Places one segment into an address space. -/
def loadSegment (memory : Memory) (space : SpaceHandle) (segment : Segment) :
    Except LoadError Unit × Memory :=
  match segment.check with
  | .error error => (.error error, memory)
  | .ok () =>
    -- Pages are there before bytes are copied, whoever asked for them first.
    let pages := pagesSpanned segment.va (segment.va + segment.length)
    match backPages space segment.permission pages (pageBase segment.va) memory with
    | (.error error, memory) => (.error (.env error), memory)
    | (.ok (), memory) =>
      match memory.copyOut space segment.va segment.contents with
      | (.error _, memory) => (.error (.env .fault), memory)
      | (.ok (), memory) => (.ok (), memory)

/-- Places segments into an address space, in order, up to the first that fails. -/
def loadSegments (space : SpaceHandle) :
    List Segment → Memory → Except LoadError Unit × Memory
  | [], memory => (.ok (), memory)
  | segment :: rest, memory =>
    -- Pages of earlier segments stay mapped, and are freed with the space.
    match memory.loadSegment space segment with
    | (.error error, memory) => (.error error, memory)
    | (.ok (), memory) => loadSegments space rest memory

/-- Places a program into an address space, with one page of stack. -/
def loadImage (memory : Memory) (space : SpaceHandle) (image : ProgramImage) :
    Except LoadError Unit × Memory :=
  match loadSegments space image.segments memory with
  | (.error error, memory) => (.error error, memory)
  | (.ok (), memory) =>
    -- The stack comes last, on the page below its top.
    match backPages space .readWrite 1 (stackTop - pageSize) memory with
    | (.error error, memory) => (.error (.env error), memory)
    | (.ok (), memory) => (.ok (), memory)

end Memory

/-- Creates an environment without a parent that runs an image; a failure frees it again. -/
def Kernel.createEnv (kernel : Kernel) (image : ProgramImage) :
    Except LoadError EnvId × Kernel :=
  match kernel.allocEnv .self with
  | (.error error, kernel) => (.error (.env error), kernel)
  | (.ok (slot, space), kernel) =>
    match kernel.memory.loadImage space image with
    | (.error error, memory) => (.error error, { kernel with memory }.freeEnv slot)
    | (.ok (), memory) =>
      -- It begins at the entry of the image, with its other registers as they are at first.
      let start (env : Env) : Env :=
        let context := { env.frame.context with eip := image.entry }
        { env with frame := { env.frame with context } }
      let kernel := { kernel with memory }.modifyEnv slot start
      (.ok (kernel.envAt slot).id, kernel)

end Exokernel
