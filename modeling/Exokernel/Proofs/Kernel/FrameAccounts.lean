import Exokernel.Proofs.Kernel.Runs

/-! Every frame is free or in use, and its counter says how often it is used. -/

namespace Exokernel

namespace Memory

/-- Number of pages, over all address spaces, that are mapped to a frame. -/
def mappingCount (memory : Memory) (frame : FrameNumber) : Nat :=
  memory.total fun table => table.mappings.countP fun mapping => mapping.2.frame == frame

section Totals

variable (memory : Memory) (frame : FrameNumber)

/-- A frame is counted among all frames as often as among those of the single page tables. -/
theorem count_total (frames : PageTable → List FrameNumber) :
    (memory.total fun table => (frames table : Multiset FrameNumber)).count frame =
      memory.total fun table => (frames table).count frame := by
  -- Counting is additive, so it can be done table by table.
  rw [total, total, Multiset.count_sum']
  refine Finset.sum_congr rfl fun index _ => ?_
  cases memory.table? ⟨index⟩ <;> simp

/-- The leaves are the frames that pages are mapped to. -/
theorem count_leaves : memory.leaves.count frame = memory.mappingCount frame := by
  -- Both sides count mappings: one through the frames they name, one directly.
  rw [leaves, count_total, mappingCount]
  congr 1
  funext table
  rw [PageTable.leaves, PageTable.mappings, WordMap.values, List.map_map, List.count_eq_countP,
    List.countP_map, List.countP_map]
  rfl

end Totals

end Memory

end Exokernel
