import Exokernel.Proofs.Kernel.SendAnswers

/-! Whom an environment may change by a system call: itself and its children. -/

namespace Exokernel.Kernel

variable {kernel next : Kernel} {caller slot : Slot} {target : EnvId}

/-- The slot of the environment that an id names, if the caller may change it. -/
def owned? (kernel : Kernel) (caller : Slot) (target : EnvId) : Option Slot :=
  -- A grandchild, or the child of a sibling, is a stranger.
  (kernel.addressee? caller target).bind fun slot =>
    if slot = caller ∨ (kernel.envAt slot).parent = (kernel.envAt caller).id then some slot
    else none

/-- Whom the kernel lets the caller change is decided by who exists and who created whom. -/
theorem findOwned_eq (owns : kernel.current = some caller) (target : EnvId) :
    kernel.findOwned target =
      match kernel.owned? caller target with
      | some slot => .ok slot
      | none => .error .badEnv := by
  have found := kernel.find_eq caller target
  simp only [findOwned, owns, EnvTable.findOwned, found, owned?]
  cases kernel.addressee? caller target with
  | none => rfl
  | some slot =>
    -- Of those that exist, the caller may change itself and its children.
    show (if slot = caller ∨ (kernel.envAt slot).parent = (kernel.envAt caller).id
      then Except.ok slot else .error SysError.badEnv) = _
    rw [Option.bind_some]
    split <;> rfl

/-- The caller may change those environments that it owns. -/
theorem findOwned_eq_ok (owns : kernel.current = some caller) :
    kernel.findOwned target = .ok slot ↔ kernel.owned? caller target = some slot := by
  -- A failure is an error on one side and nothing on the other.
  rw [findOwned_eq owns]
  cases kernel.owned? caller target <;> simp

/-- Registers and counts of runs have no part in who may change whom. -/
theorem owned?_of_profile (same : next.profile = kernel.profile) :
    next.owned? caller = kernel.owned? caller := by
  -- Ids, creators and statuses are part of the profile.
  funext target
  simp only [owned?, addressee?_of_profile same, parent_of_profile same, id_of_profile same]

end Exokernel.Kernel
