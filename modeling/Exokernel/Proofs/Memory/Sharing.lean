import Exokernel.Proofs.Memory.Private

/-! A space that shares its pages with a child, so that neither of the two can write to them. -/

namespace Exokernel.Memory

variable {origin memory next : Memory} {space child target : SpaceHandle} {stack place : Address}
  {frame : FrameNumber} {flags held : PageFlags} {entry : PageEntry} {size : Nat}

/-- A private space has kept what it held at first. -/
structure Retains (origin memory : Memory) (space : SpaceHandle) (stack : Address) : Prop where
  /-- Only the space itself can write to its pages. -/
  isolated : memory.Private space
  /-- All permissions are ones that user code may ask for. -/
  permitted : memory.Permitted
  /-- Its pages have the bytes that they had. -/
  keeps : Keeps origin memory space stack

namespace Retains

/-- Where no entry and no frame in use changes, everything is retained. -/
theorem congr (retains : Retains origin memory space stack) (sound : memory.Sound size 0)
    (entries : ∀ handle va, next.entryAt? handle va = memory.entryAt? handle va)
    (pages : ∀ frame, frame ∉ memory.pool.free → next.pool.page frame = memory.pool.page frame) :
    Retains origin next space stack where
  isolated := retains.isolated.congr entries
  permitted handle va entry found := retains.permitted handle va entry (entries handle va ▸ found)
  keeps := by
    refine retains.keeps.trans fun va below entry found => ?_
    -- A mapped frame is in use, so that its bytes have stayed.
    have before := found
    rw [entries] at before
    exact ⟨by rw [before]; rfl, fun _ => byteAt_congr before found
      (pages _ (sound.not_mem_free_of_entry before))⟩

/-- A new space maps nothing, and so changes nothing for the others. -/
theorem createSpace (retains : Retains origin memory space stack) (sound : memory.Sound size 0)
    (created : memory.createSpace = (.ok child, next)) : Retains origin next space stack := by
  -- Its page directory comes from a free frame.
  have supplies := memory.supplies_createSpace
  rw [created] at supplies
  exact retains.congr sound (entryAt?_of_createSpace created)
    fun frame => supplies.clears.page_of_used

/-- A fresh page above the stack top is none of the pages that are retained. -/
theorem fresh (retains : Retains origin memory space stack) (sound : memory.Sound size 0)
    (installs : Installs memory next target place (some entry))
    (free : entry.frame ∈ memory.pool.free) (allowed : entry.flags.isUserPermission = true)
    (above : stackTop ≤ place) : Retains origin next space stack where
  isolated :=
    { guarded := retains.isolated.guarded.installs_fresh sound installs free
      vacant := by
        -- The page below the stack top is another one.
        rw [installs.entryAt?_eq (.inr (pageNumber_ne_of_above (by decide) above))]
        exact retains.isolated.vacant }
  permitted := installs.permitted retains.permitted (by rintro _ ⟨⟩; exact allowed)
  keeps := retains.keeps.trans (installs.keeps sound fun _ _ below page =>
    absurd page (pageNumber_ne_of_above below above))

/-- An entry that does not permit writing may share a page, also in its own place. -/
theorem shared (retains : Retains origin memory space stack) (sound : memory.Sound size 0)
    (installs : Installs memory next target place (some { frame, flags }))
    (allowed : flags.isUserPermission = true) (readOnly : flags.contains .writable = false)
    (own : target = space → memory.entryAt? space place = some { frame, flags := held }) :
    Retains origin next space stack where
  isolated :=
    { guarded := retains.isolated.guarded.installs_shared installs readOnly fun same =>
        ⟨_, own same, rfl⟩
      vacant := by
        rw [installs.entryAt?_eq, retains.isolated.vacant]
        by_contra both
        -- Only the own space could lose the copy page, and there it is not what is shared.
        obtain ⟨same, page⟩ := not_or.mp both
        have mapped := own (not_not.mp same).symm
        rw [← entryAt?_congr (not_not.mp page), retains.isolated.vacant] at mapped
        simp at mapped }
  permitted := installs.permitted retains.permitted (by rintro _ ⟨⟩; exact allowed)
  keeps := by
    refine retains.keeps.trans (installs.keeps sound ?_)
    rintro rfl va - page _ ⟨⟩
    have before : memory.entryAt? space va = some { frame, flags := held } := by
      rw [entryAt?_congr page, own rfl]
    exact ⟨by rw [before]; rfl, installs.byteAt_eq sound before
      ((installs.here va).trans (if_pos page)) rfl⟩

end Retains

/-- A child's pages below the stack top are its parent's, and neither of the two can write there. -/
def Shares (memory : Memory) (space child : SpaceHandle) : Prop :=
  -- The permission may differ between the two, but neither has the one to write.
  ∀ va < stackTop, ∀ entry, memory.entryAt? child va = some entry →
    entry.flags.contains .writable = false ∧ ∃ held, held.contains .writable = false ∧
      memory.entryAt? space va = some { frame := entry.frame, flags := held }

namespace Shares

/-- One more page is shared. -/
theorem placed (shares : Shares memory space child)
    (parentAt : ∀ va, next.entryAt? space va = if pageNumber va = pageNumber place then
      some { frame, flags := held } else memory.entryAt? space va)
    (childAt : ∀ va, next.entryAt? child va = if pageNumber va = pageNumber place then
      some { frame, flags } else memory.entryAt? child va)
    (parentOnly : held.contains .writable = false) (childOnly : flags.contains .writable = false) :
    Shares next space child := by
  -- The page itself has the two new entries, and every other page has those it had.
  intro va below entry found
  rw [childAt] at found
  rw [parentAt]
  split at found
  · rename_i page
    simp only [Option.some.injEq] at found
    subst found
    exact ⟨childOnly, held, parentOnly, if_pos page⟩
  · rename_i page
    obtain ⟨only, other, readOnly, mapped⟩ := shares va below entry found
    exact ⟨only, other, readOnly, (if_neg page).trans mapped⟩

/-- A page of the child above the stack top is not shared. -/
theorem fresh (shares : Shares memory space child) (apart : child ≠ space)
    (installs : Installs memory next child place (some entry)) (above : stackTop ≤ place) :
    Shares next space child := by
  intro va below current found
  -- Below the stack top the entries are those from before.
  have elsewhere := pageNumber_ne_of_above below above
  rw [installs.here, if_neg elsewhere] at found
  rw [installs.there space (Ne.symm apart)]
  exact shares va below current found

/-- Nobody at all can write to the pages that a child shares with a private space. -/
theorem isolated (shares : Shares memory space child) (private_ : memory.Private space) :
    memory.Private child where
  guarded := by
    -- Whoever could write to the child's page could write to the parent's, where nobody may.
    intro va entry below found other place flags mapped writes
    obtain ⟨-, held, readOnly, parent⟩ := shares va below entry found
    obtain ⟨rfl, page⟩ := private_.guarded va _ below parent other place flags mapped writes
    rw [entryAt?_congr page, parent] at mapped
    simp only [Option.some.injEq, PageEntry.mk.injEq, true_and] at mapped
    rw [mapped, writes] at readOnly
    simp at readOnly
  vacant := by
    by_contra mapped
    obtain ⟨entry, found⟩ := Option.ne_none_iff_exists'.mp mapped
    obtain ⟨-, held, -, parent⟩ := shares copyPage (by decide) entry found
    rw [private_.vacant] at parent
    simp at parent

/-- A child finds its parent's bytes. -/
theorem byteAt_eq (shares : Shares memory space child) {va : Address} (below : va < stackTop)
    (found : memory.entryAt? child va = some entry) :
    (memory.entryAt? space va).isSome = true ∧
      memory.byteAt child va = memory.byteAt space va := by
  -- Both map the address to one frame.
  obtain ⟨-, held, -, parent⟩ := shares va below entry found
  exact ⟨by rw [parent]; rfl, byteAt_congr parent found rfl⟩

end Shares

end Exokernel.Memory
