import Exokernel.Memory.MapError
import Exokernel.Memory.Page

/-! The pool of physical frames, each with a count of the references to it. -/

namespace Exokernel

/-- Number of a physical frame. -/
abbrev FrameNumber := Nat

/-- Physical address of a frame's first byte, as far as a word holds it. -/
def frameAddress (frame : FrameNumber) : Address :=
  -- Memory past the last address has no name in a page-table entry.
  UInt32.ofNat (frame * pageLength)

/-- A physical frame. -/
structure Frame where
  /-- Number of references to the frame, as far as a word counts. -/
  refs : Word := 0
  /-- Contents of the frame. -/
  page : Page := Page.zero

/-- All physical frames, and which of them are free. -/
structure FramePool where
  /-- The frames by number. -/
  frames : Array Frame
  /-- Frames on the free list, the next one to hand out first. -/
  free : List FrameNumber
  /-- The next allocation fails, whatever is free. -/
  failNext : Bool := false

namespace FramePool

/-- How many of `count` frames are put on the free list; this is reckoned in a word. -/
def listed (count : Nat) : Nat :=
  -- A number with more bits loses them, so that other frames are never handed out.
  (UInt32.ofNat count).toNat

/-- A pool of `count` unused frames, low numbers handed out first. -/
def ofCount (count : Nat) : FramePool :=
  -- The free list is taken from its head, so it starts with the lowest number.
  { frames := Array.replicate count {}, free := List.range (listed count) }

/-- Number of references to a frame. -/
def refs (pool : FramePool) (frame : FrameNumber) : Nat :=
  -- A number that names no frame has no references.
  match pool.frames[frame]? with
  | some found => found.refs.toNat
  | none => 0

/-- Contents of a frame. -/
def page (pool : FramePool) (frame : FrameNumber) : Page :=
  -- A number that names no frame reads as zeros.
  match pool.frames[frame]? with
  | some found => found.page
  | none => Page.zero

/-- Number of frames on the free list. -/
def freeCount (pool : FramePool) : Nat :=
  pool.free.length

/-- The pool with one frame changed. -/
def modify (pool : FramePool) (frame : FrameNumber) (change : Frame → Frame) : FramePool :=
  { pool with frames := pool.frames.modify frame change }

/-- Takes a frame off the free list and fills it with zeros; it has no references yet. -/
def alloc (pool : FramePool) : Except MapError FrameNumber × FramePool :=
  -- A forced failure is used up, and takes no frame.
  if pool.failNext then (.error .outOfMemory, { pool with failNext := false })
  else match pool.free with
    | [] => (.error .outOfMemory, pool)
    | frame :: rest =>
      (.ok frame, { pool with free := rest }.modify frame fun old => { old with page := Page.zero })

/-- Puts an unreferenced frame back on the free list; a referenced one is left alone. -/
def release (pool : FramePool) (frame : FrameNumber) : FramePool :=
  -- The frame freed last is the first one to be handed out again.
  if pool.refs frame = 0 then { pool with free := frame :: pool.free } else pool

/-- Counts one more reference to a frame. -/
def incref (pool : FramePool) (frame : FrameNumber) : FramePool :=
  -- The counter is a word, so one reference too many would start it again at zero.
  pool.modify frame fun old => { old with refs := old.refs + 1 }

/-- Counts one reference less to a frame; a counter at zero stays there. -/
def lower (pool : FramePool) (frame : FrameNumber) : FramePool :=
  pool.modify frame fun old => { old with refs := if old.refs = 0 then 0 else old.refs - 1 }

/-- Counts one reference less, and frees the frame when none is left. -/
def decref (pool : FramePool) (frame : FrameNumber) : FramePool :=
  -- The count is lowered first, and decides whether the frame goes back.
  (pool.lower frame).release frame

/-- Makes the next allocation fail. -/
def forceFailure (pool : FramePool) : FramePool :=
  { pool with failNext := true }

/-- Byte of a frame at an offset. -/
def byteAt (pool : FramePool) (frame : FrameNumber) (offset : Nat) : UInt8 :=
  (pool.page frame).byteAt offset

/-- Replaces one byte of a frame. -/
def setByte (pool : FramePool) (frame : FrameNumber) (offset : Nat) (byte : UInt8) : FramePool :=
  pool.modify frame fun old => { old with page := old.page.setByte offset byte }

/-- Replaces bytes of a frame from an offset on, as far as the frame reaches. -/
def overlay (pool : FramePool) (frame : FrameNumber) (offset : Nat) (bytes : List UInt8) :
    FramePool :=
  pool.modify frame fun old => { old with page := old.page.overlay offset bytes }

end FramePool

end Exokernel
