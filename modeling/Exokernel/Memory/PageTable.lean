import Exokernel.Abi.PageFlags
import Exokernel.Memory.FramePool
import Exokernel.Memory.WordMap

/-! Two-level page tables whose directory and tables take frames of their own. -/

namespace Exokernel

/-- What a page table says of one page. -/
structure PageEntry where
  /-- Frame that the page is mapped to. -/
  frame : FrameNumber
  /-- Permissions and other flags of the mapping. -/
  flags : PageFlags
  deriving DecidableEq

/-- An entry as the processor reads it: the frame's address with the flags in its low bits. -/
def PageEntry.raw (entry : PageEntry) : Word :=
  -- A frame's address has no low bits, so flags below the page size do not touch it.
  frameAddress entry.frame ||| entry.flags.bits

/-- The user half of one address space. -/
structure PageTable where
  /-- Frame of the page directory. -/
  directory : FrameNumber
  /-- Frames of the page tables, by table index. -/
  tables : WordMap FrameNumber := .empty
  /-- Mapped pages, by page number. -/
  entries : WordMap PageEntry := .empty

namespace PageTable

/-- A table that maps nothing; its directory takes one frame. -/
def create (pool : FramePool) : Except MapError PageTable × FramePool :=
  -- The directory is referenced from the start, by the table itself.
  match pool.alloc with
  | (.error error, pool) => (.error error, pool)
  | (.ok directory, pool) => (.ok { directory }, pool.incref directory)

/-- Entry of the page that holds an address. -/
def entryAt? (table : PageTable) (va : Address) : Option PageEntry :=
  -- All addresses of a page have the same number.
  table.entries.find? (pageNumber va)

/-- The table with a page table for an address, which takes a frame if it is the first use. -/
def ensureTable (table : PageTable) (pool : FramePool) (va : Address) :
    Except MapError PageTable × FramePool :=
  -- A page table stays until the whole space goes, even when it is empty again.
  let index := tableIndex va
  match table.tables.find? index with
  | some _ => (.ok table, pool)
  | none =>
    match pool.alloc with
    | (.error error, pool) => (.error error, pool)
    | (.ok frame, pool) =>
      (.ok { table with tables := table.tables.insert index frame }, pool.incref frame)

/--
The table with a frame mapped at the page of an address, in place of what was mapped there.

The new frame is counted before the old one is dropped, so mapping a frame over itself never
frees it.
-/
def insert (table : PageTable) (pool : FramePool) (va : Address) (frame : FrameNumber)
    (flags : PageFlags) : Except MapError PageTable × FramePool :=
  match table.ensureTable pool va with
  | (.error error, pool) => (.error error, pool)
  | (.ok table, pool) =>
    let pool := pool.incref frame
    let pool :=
      match table.entryAt? va with
      | some old => pool.decref old.frame
      | none => pool
    -- An entry is always present, whatever the flags say.
    let entry := { frame, flags := flags ||| .present }
    (.ok { table with entries := table.entries.insert (pageNumber va) entry }, pool)

/-- The table without the page of an address; a page that is not mapped changes nothing. -/
def remove (table : PageTable) (pool : FramePool) (va : Address) : PageTable × FramePool :=
  -- The page table that covered the address is kept.
  match table.entryAt? va with
  | some old =>
    ({ table with entries := table.entries.erase (pageNumber va) }, pool.decref old.frame)
  | none => (table, pool)

/-- Frames that the pages are mapped to, one for each mapping, in address order. -/
def leaves (table : PageTable) : List FrameNumber :=
  table.entries.values.map PageEntry.frame

/-- Frames that the table itself is kept in: its page tables, then its directory. -/
def ownFrames (table : PageTable) : List FrameNumber :=
  table.tables.values ++ [table.directory]

/-- Drops every mapping in address order, then the table frames, then the directory. -/
def release (table : PageTable) (pool : FramePool) : FramePool :=
  (table.leaves ++ table.ownFrames).foldl FramePool.decref pool

/-- Every mapped page's address and entry, in address order. -/
def mappings (table : PageTable) : List (Address × PageEntry) :=
  table.entries.toList.map fun (page, entry) => (page * pageSize, entry)

end PageTable

end Exokernel
