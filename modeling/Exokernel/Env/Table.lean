import Exokernel.Env.Basic

/-! The environment table: a fixed number of slots and a list of the free ones. -/

namespace Exokernel

/-- All slots, and which of them are free. -/
structure EnvTable where
  /-- The slots. -/
  slots : Vector Env slotCount
  /-- Free slots, the next one to use first. -/
  free : List Slot

namespace EnvTable

/-- A table in which every slot is free; slot zero is used first. -/
def empty : EnvTable :=
  { slots := Vector.replicate slotCount {}, free := List.finRange slotCount }

/-- What a slot holds. -/
def get (table : EnvTable) (slot : Slot) : Env :=
  table.slots[slot]

/-- The table with one slot replaced. -/
def put (table : EnvTable) (slot : Slot) (env : Env) : EnvTable :=
  { table with slots := table.slots.set slot.val env slot.isLt }

/-- The table with one slot changed. -/
def modify (table : EnvTable) (slot : Slot) (change : Env → Env) : EnvTable :=
  table.put slot (change (table.get slot))

/-- Environments that exist, with their slots, in slot order. -/
def live (table : EnvTable) : List (Slot × Env) :=
  -- A slot without an environment is marked by its status.
  ((List.finRange slotCount).map fun slot => (slot, table.get slot)).filter (·.2.isLive)

/-- The slot of an id, as any environment may name it. -/
def find (table : EnvTable) (id : EnvId) (current : Option Slot) : Except SysError Slot :=
  if id.isSelf then
    match current with
    | some slot => .ok slot
    | none => .error .badEnv
  else
    -- A slot that was used again has a newer id, and so does not answer to the old one.
    let env := table.get id.slot
    if env.isLive && env.id == id then .ok id.slot else .error .badEnv

/-- The slot of an id that must be the current environment or one of its children. -/
def findOwned (table : EnvTable) (id : EnvId) (current : Option Slot) : Except SysError Slot :=
  -- Only the immediate creator counts as a parent.
  match table.find id current, current with
  | .ok slot, some owner =>
    if slot = owner ∨ (table.get slot).parent = (table.get owner).id then .ok slot
    else .error .badEnv
  | _, _ => .error .badEnv

/-- What was put in a slot is what the slot holds. -/
@[simp] theorem get_put_same (table : EnvTable) (slot : Slot) (env : Env) :
    (table.put slot env).get slot = env := by
  -- Reading the position that was just written gives what was written.
  simp [get, put]

/-- Changing one slot leaves the others as they were. -/
theorem get_put_other (table : EnvTable) {slot other : Slot} (env : Env)
    (different : other ≠ slot) : (table.put slot env).get other = table.get other := by
  -- Distinct slots are distinct positions.
  have positions : slot.val ≠ other.val := fun same => different (Fin.ext same.symm)
  simp [get, put, positions]

end EnvTable

end Exokernel
