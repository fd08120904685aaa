import Exokernel.Proofs.Kernel.MailIntegrity

/-! Which ids the uses of a slot get, and which of its old ids the table still takes for new. -/

namespace Exokernel

namespace EnvId

/-- The id that a slot gives when it is used for the n-th time since boot. -/
def ofUse (slot : Slot) : Nat → EnvId
  -- A slot that was never used has the id that nobody has.
  | 0 => .self
  | use + 1 => ⟨(UInt32.ofNat (use % 524287 + 1) <<< 12) ||| UInt32.ofNat slot.val⟩

/-- The id of a use is a generation on top of the slot, and the generations repeat. -/
theorem toNat_ofUse (slot : Slot) (use : Nat) :
    (ofUse slot (use + 1)).raw.toNat = (use % 524287 + 1) * 4096 + slot.val := by
  -- The slot fits below the generation, so that joining the two is adding them.
  have inside : slot.val < 2 ^ 12 := slot.isLt.trans (by decide)
  have small : use % 524287 + 1 < 2 ^ 32 := by omega
  have low : (use % 524287 + 1) * 4096 < 2 ^ 32 := by omega
  have bits := Nat.two_pow_add_eq_or_of_lt inside (use % 524287 + 1)
  rw [ofUse, UInt32.toNat_or, UInt32.toNat_shiftLeft, UInt32.toNat_ofNat', UInt32.toNat_ofNat',
    Nat.mod_eq_of_lt small, Nat.mod_eq_of_lt (inside.trans (by decide)),
    show (12 : UInt32).toNat % 32 = 12 from rfl, Nat.shiftLeft_eq,
    Nat.mod_eq_of_lt (show _ * 2 ^ 12 < 2 ^ 32 from low), Nat.mul_comm, ← bits]
  omega

/-- The next generation is one more, except that the first comes after the last. -/
theorem toNat_nextGeneration {previous : EnvId} {generation : Nat} {slot : Slot}
    (shape : previous.raw.toNat = generation * 4096 + slot.val) (bound : generation ≤ 524287) :
    previous.nextGeneration.toNat = (generation % 524287 + 1) * 4096 := by
  have inside : slot.val < 1024 := slot.isLt
  have advanced : (previous.raw + 0x1000).toNat = (generation + 1) * 4096 + slot.val := by
    rw [UInt32.toNat_add, shape]
    show (generation * 4096 + slot.val + 4096) % 2 ^ 32 = _
    omega
  -- Rounding down takes the slot away again.
  have rounded : (previous.raw + 0x1000 - (previous.raw + 0x1000) % 1024).toNat =
      (generation + 1) * 4096 := by
    have below : (previous.raw + 0x1000) % 1024 ≤ previous.raw + 0x1000 :=
      UInt32.le_iff_toNat_le.mpr (by rw [UInt32.toNat_mod]; exact Nat.mod_le _ _)
    rw [UInt32.toNat_sub_of_le _ _ below, UInt32.toNat_mod, advanced]
    show (generation + 1) * 4096 + slot.val - ((generation + 1) * 4096 + slot.val) % 1024 = _
    omega
  simp only [nextGeneration]
  generalize previous.raw + 0x1000 - (previous.raw + 0x1000) % 1024 = candidate at rounded
  -- The sum leaves the positive numbers after the last generation only.
  have wraps : (candidate = 0 ∨ 0x80000000 ≤ candidate) ↔ generation = 524287 := by
    rw [← UInt32.toNat_inj, UInt32.le_iff_toNat_le, rounded]
    show _ = 0 ∨ 2147483648 ≤ _ ↔ _
    omega
  by_cases last : generation = 524287
  · rw [if_pos (wraps.mpr last), last]
    rfl
  · rw [if_neg (fun wrapped => last (wraps.mp wrapped)), rounded]
    omega

/-- After each use of a slot comes the next one. -/
theorem next_ofUse (slot : Slot) (use : Nat) :
    (ofUse slot use).next slot = ofUse slot (use + 1) := by
  -- The first use follows the zero id, and every other one the generation before it.
  have inside : slot.val < 1024 := slot.isLt
  have following : (ofUse slot use).nextGeneration.toNat = (use % 524287 + 1) * 4096 := by
    cases use with
    | zero =>
      show EnvId.self.nextGeneration.toNat = 4096
      decide
    | succ use =>
      rw [toNat_nextGeneration (toNat_ofUse slot use) (by omega)]
      omega
  have word : ((ofUse slot use).next slot).raw = (ofUse slot (use + 1)).raw := by
    rw [← UInt32.toNat_inj, toNat_next, following, toNat_ofUse]
  exact congrArg EnvId.mk word

/-- The id of a use points to its slot. -/
theorem slot_ofUse (slot : Slot) (use : Nat) : (ofUse slot (use + 1)).slot = slot := by
  -- It is the successor of another id in the slot.
  rw [← next_ofUse, slot_next]

/-- The id of a use is never the one that means oneself. -/
theorem isSelf_ofUse (slot : Slot) (use : Nat) : (ofUse slot (use + 1)).isSelf = false := by
  -- Ids that are given are positive as signed words.
  have positive := (next_bounds (ofUse slot use) slot).1
  rw [next_ofUse] at positive
  rw [isSelf, beq_eq_false_iff_ne]
  intro zero
  rw [zero] at positive
  exact absurd positive (by decide)

/-- Two uses of a slot give the same id exactly if whole rounds of generations lie between them. -/
theorem ofUse_inj_iff (slot : Slot) {first second : Nat} (ordered : first ≤ second) :
    ofUse slot (second + 1) = ofUse slot (first + 1) ↔ 524287 ∣ second - first := by
  -- Between ids of one slot the generations decide, and these are remainders.
  have words : ofUse slot (second + 1) = ofUse slot (first + 1) ↔
      (ofUse slot (second + 1)).raw.toNat = (ofUse slot (first + 1)).raw.toNat := by
    rw [UInt32.toNat_inj, EnvId.mk.injEq]
  rw [words, toNat_ofUse, toNat_ofUse, ← Nat.modEq_iff_dvd' ordered, Nat.ModEq]
  omega

end EnvId

namespace Kernel

variable {kernel acted next : Kernel} {event : KernelEvent} {owner : Slot} {frame : TrapFrame}

/-- The slot that a creation takes, and the id that it gives, if there is room. -/
def taken? (kernel : Kernel) (parent : EnvId) : Option (Slot × EnvId) :=
  -- The id is read from the record that the creation has made.
  match kernel.allocEnv parent with
  | (.ok (slot, _), made) => some (slot, (made.envAt slot).id)
  | (.error _, _) => none

/-- The environment that asks for a child in an event. -/
def forker? (kernel : Kernel) : KernelEvent → Option (Slot × TrapFrame)
  -- Nobody but the owner of the processor can fork.
  | .trap frame _ =>
    if frame.fromUser ∧ TrapKind.ofVector frame.vector = .systemCall ∧
        Syscall.decode frame.context.regs.eax = .ok .fork then
      kernel.current.map (·, frame)
    else none
  | _ => none

/--
The slot that an event takes for a new environment, and the id that it gives.

The image of the environment need not fit; then the slot is released again.
-/
def uses? (kernel : Kernel) (event : KernelEvent) : Option (Slot × EnvId) :=
  -- A fork finds the caller's registers saved already.
  match event with
  | .create _ => kernel.taken? .self
  | _ => (kernel.forker? event).bind fun (owner, frame) =>
      (kernel.saved owner frame).taken? (kernel.envAt owner).id

/-- The ids that a slot gives in a part of a run, in order. -/
def idsOf (kernel : Kernel) (slot : Slot) : List KernelEvent → List EnvId
  | [] => []
  -- Every later event is looked at in the state that it really finds.
  | event :: rest =>
    let later := (kernel.step event).idsOf slot rest
    match kernel.uses? event with
    | some (taken, id) => if taken = slot then id :: later else later
    | none => later

/-- What happens to the ids of all slots when a slot is taken, or none is. -/
inductive Names (kernel next : Kernel) : Option (Slot × EnvId) → Prop where
  /-- All slots keep their ids, whether environments are in them or not. -/
  | kept (same : ∀ slot, (next.envAt slot).id = (kernel.envAt slot).id) : Names kernel next none
  /-- A slot gives the id after its last one, and the others keep theirs. -/
  | given (slot : Slot) (same : ∀ other, (next.envAt other).id =
      if other = slot then (kernel.envAt slot).id.next slot else (kernel.envAt other).id) :
      Names kernel next (some (slot, (kernel.envAt slot).id.next slot))

namespace Names

variable {use : Option (Slot × EnvId)}

/-- What keeps all ids may come after a slot was taken. -/
theorem trans (names : Names kernel acted use)
    (same : ∀ slot, (next.envAt slot).id = (acted.envAt slot).id) : Names kernel next use := by
  -- A use is still the use of the same slot, with the same id.
  cases names with
  | kept before => exact .kept fun slot => (same slot).trans (before slot)
  | given taken before => exact .given taken fun slot => (same slot).trans (before slot)

/-- What keeps all ids may come before a slot is taken. -/
theorem of_same (same : ∀ slot, (acted.envAt slot).id = (kernel.envAt slot).id)
    (names : Names acted next use) : Names kernel next use := by
  -- A use is still the use of the same slot, with the same id.
  cases names with
  | kept after => exact .kept fun slot => (after slot).trans (same slot)
  | given taken after =>
    rw [same]
    refine .given taken fun other => ?_
    rw [after, same, same]

/-- The slot that is taken is the one that the creation reports. -/
theorem allocEnv (kernel : Kernel) (parent : EnvId) :
    Names kernel (kernel.allocEnv parent).2 (kernel.taken? parent) := by
  -- Either no slot is taken, or the one that is reported has its next id.
  unfold taken?
  cases allocated : kernel.allocEnv parent with
  | mk result made =>
    cases result with
    | error cause =>
      rcases allocEnv_error allocated with rfl | ⟨-, memory, -, rfl⟩ <;> exact .kept fun _ => rfl
    | ok created =>
      obtain ⟨slot, space⟩ := created
      have slots := envAt_allocEnv allocated
      dsimp only
      rw [show (made.envAt slot).id = (kernel.envAt slot).id.next slot by
        rw [slots, if_pos rfl]; rfl]
      refine .given slot fun other => ?_
      rw [slots]
      split <;> rfl

/-- An environment that is created from an image takes a slot, even if the image does not fit. -/
theorem createEnv (kernel : Kernel) (image : ProgramImage) :
    Names kernel (kernel.createEnv image).2 (kernel.taken? .self) := by
  refine (Names.allocEnv kernel .self).trans fun slot => ?_
  unfold Kernel.createEnv
  cases kernel.allocEnv .self with
  | mk result made =>
    cases result with
    | error cause => rfl
    | ok created =>
      dsimp only
      split
      · -- The slot that is released keeps the id that was given.
        exact view_freeEnv Env.id _ _ slot rfl
      · exact view_modifyEnv Env.id _ _ slot rfl

/-- A fork takes a slot for the child of its caller. -/
theorem fork (owns : kernel.current = some owner) :
    Names kernel kernel.fork.2 (kernel.taken? (kernel.envAt owner).id) := by
  -- Once the slot is taken, filling in the child leaves its id alone.
  refine (Names.allocEnv kernel (kernel.envAt owner).id).trans fun slot => ?_
  simp only [Kernel.fork, Kernel.owner, owns]
  cases kernel.allocEnv (kernel.envAt owner).id with
  | mk result made =>
    cases result with
    | error cause => rfl
    | ok created =>
      exact view_modifyEnv Env.id _ _ slot rfl

end Names

/-- No trap but a fork gives an id or takes one away. -/
theorem Effect.id_eq {address : Address} {answer : Option Word}
    (effect : Effect kernel owner frame address acted answer)
    (other : ∀ words, ¬frame.Requests .fork words) (slot : Slot) :
    (acted.envAt slot).id = (kernel.envAt slot).id := by
  -- One case for each effect: only a fork would set an id.
  cases effect with
  | exit => exact view_freeEnv Env.id kernel owner slot rfl
  | destroy => exact view_freeEnv Env.id kernel _ slot rfl
  | fault | setStatus | setFaultEntry | receive | deliver =>
    exact view_modifyEnv Env.id _ _ slot rfl
  | fork _ request => exact absurd request (other _)
  | unforked request => exact absurd request (other _)
  | _ => rfl

/-- A trap gives an id only if it is a fork, and then to the child. -/
theorem Settled.names_trap (settled : kernel.Settled) (frame : TrapFrame) (address : Address) :
    Names kernel (kernel.trap frame address).2 (kernel.uses? (.trap frame address)) := by
  cases settled.trapCourse frame address with
  | outside unowned undisturbed =>
    -- Without an owner there is nobody who could fork.
    have nobody : kernel.uses? (.trap frame address) = none := by
      by_cases user : frame.fromUser = true
      · simp [uses?, forker?, unowned user]
      · simp [uses?, forker?, user]
    rw [nobody]
    exact .kept fun slot => (SameMail.of_undisturbed undisturbed slot).id_eq
  | @owned owner acted answer user current effect ends =>
    have saved (slot : Slot) : ((kernel.saved owner frame).envAt slot).id =
        (kernel.envAt slot).id := (SameMail.saved kernel owner frame slot).id_eq
    by_cases forks : TrapKind.ofVector frame.vector = .systemCall ∧
        Syscall.decode frame.context.regs.eax = .ok .fork
    · -- The child takes the first free slot, as the event reports.
      have asked : kernel.uses? (.trap frame address) =
          (kernel.saved owner frame).taken? ((kernel.saved owner frame).envAt owner).id := by
        simp [uses?, forker?, current, user, forks, saved]
      have request : frame.Requests .fork (.ofRegisters frame.context.regs) :=
        ⟨forks.1, forks.2, rfl⟩
      have owns : (kernel.saved owner frame).current = some owner := current
      have performed : (kernel.saved owner frame).perform .fork
          (.ofRegisters frame.context.regs) =
          (.stay (SysError.encodeResult (kernel.saved owner frame).fork.1),
            (kernel.saved owner frame).fork.2) := rfl
      rw [asked, trap_request user current request address performed]
      refine (((Names.fork owns).of_same saved).trans fun slot => ?_).trans fun slot =>
        (SameMail.ends (ends_goOn _) slot).id_eq
      exact (SameMail.answered _ (some _) slot).id_eq
    · -- A trap that is no fork gives no id.
      have silent : kernel.uses? (.trap frame address) = none := by
        simp only [uses?, forker?, user, true_and, if_neg forks, Option.bind_none]
      have other (words : Arguments) : ¬frame.Requests .fork words :=
        fun request => forks ⟨request.kind, request.number⟩
      rw [silent]
      refine .kept fun slot => ?_
      rw [(SameMail.ends ends slot).id_eq, (SameMail.answered acted answer slot).id_eq,
        effect.id_eq other, saved]

/-- Whatever happens, the ids of the slots change as the event reports. -/
theorem Settled.names_step (settled : kernel.Settled) (event : KernelEvent) :
    Names kernel (kernel.step event) (kernel.uses? event) := by
  -- Only creations and forks give ids; what is left does not touch them.
  cases event with
  | create image => exact .createEnv kernel image
  | trap frame address => exact settled.names_trap frame address
  | reschedule => exact .kept fun slot => (SameMail.ends kernel.ends_reschedule slot).id_eq
  | _ => exact .kept fun _ => rfl

/-- From a state in which a slot was used a number of times on, its uses are counted on. -/
theorem Settled.idsOf_eq (settled : kernel.Settled) (slot : Slot) (events : List KernelEvent)
    {uses : Nat} (now : (kernel.envAt slot).id = .ofUse slot uses) :
    kernel.idsOf slot events =
      (List.range' uses (kernel.idsOf slot events).length).map (.ofUse slot <| · + 1) ∧
    ((events.foldl Kernel.step kernel).envAt slot).id =
      .ofUse slot (uses + (kernel.idsOf slot events).length) := by
  -- Induct on the events, the first one first; the count goes on from the use that it makes.
  induction events generalizing kernel uses with
  | nil => exact ⟨rfl, now⟩
  | cons event rest ih =>
    have next := settled.step event
    have names := settled.names_step event
    generalize found : kernel.uses? event = use at names
    cases names with
    | kept same =>
      have later := ih next ((same slot).trans now)
      simpa [idsOf, found] using later
    | given taken same =>
      by_cases here : taken = slot
      · have given : (kernel.envAt slot).id.next slot = .ofUse slot (uses + 1) := by
          rw [now, EnvId.next_ofUse]
        have used : ((kernel.step event).envAt slot).id = .ofUse slot (uses + 1) := by
          rw [same, if_pos here.symm, here, given]
        obtain ⟨ids, last⟩ := ih next used
        rw [idsOf, found]
        dsimp only
        rw [if_pos here, here, given, List.length_cons, List.range'_succ, List.map_cons, ← ids,
          List.foldl_cons, last]
        exact ⟨rfl, congrArg (EnvId.ofUse slot) (by omega)⟩
      · have later := ih next ((same slot).trans (by rw [if_neg (Ne.symm here), now]))
        simpa [idsOf, found, here] using later

/-- The ids that a slot has given since boot, in order. -/
def idsSinceBoot (config : Config) (events : List KernelEvent) (slot : Slot) : List EnvId :=
  (boot config).idsOf slot events

/-- What a slot has given since boot, and which id is there now. -/
theorem ids_after (config : Config) (events : List KernelEvent) (slot : Slot) :
    idsSinceBoot config events slot =
      (List.range (idsSinceBoot config events slot).length).map (.ofUse slot <| · + 1) ∧
    ((after config events).envAt slot).id =
      .ofUse slot (idsSinceBoot config events slot).length := by
  -- At boot every slot is as if its use number zero were over.
  have first : ((boot config).envAt slot).id = .ofUse slot 0 :=
    congrArg Env.id (EnvTable.get_empty slot)
  have counted := (settled_boot config).idsOf_eq slot events first
  rw [Nat.zero_add, ← List.range_eq_range'] at counted
  exact counted

/--
Every use of a slot gives the id of its generation, and the generations repeat after 524287 uses.

The slot keeps the last id that it gave, also while nobody is in it.

Any id that it gave names the environment that is there now if whole rounds have passed since,
and nobody otherwise.
-/
theorem stale_after (config : Config) (events : List KernelEvent) (slot : Slot) :
    idsSinceBoot config events slot =
      (List.range (idsSinceBoot config events slot).length).map (.ofUse slot <| · + 1) ∧
    ((after config events).envAt slot).id =
      .ofUse slot (idsSinceBoot config events slot).length ∧
    ∀ (use : Fin (idsSinceBoot config events slot).length) (current : Option Slot),
      (after config events).envs.find ((idsSinceBoot config events slot).get use) current =
        if ((after config events).envAt slot).isLive = true ∧
            524287 ∣ (idsSinceBoot config events slot).length - (use + 1) then .ok slot
        else .error .badEnv := by
  obtain ⟨counted, now⟩ := ids_after config events slot
  refine ⟨counted, now, fun use current => ?_⟩
  generalize idsSinceBoot config events slot = ids at counted now use
  obtain ⟨use, inside⟩ := use
  have given : ids.get ⟨use, inside⟩ = .ofUse slot (use + 1) := by
    have listed : ids[use]? = some (.ofUse slot (use + 1)) := by
      rw [counted, List.getElem?_map, List.getElem?_range inside, Option.map_some]
    exact (List.getElem_eq_iff inside).mpr listed
  -- The slot was used at least once, so its last id is that of a use.
  obtain ⟨count, last⟩ : ∃ count, ids.length = count + 1 :=
    Nat.exists_eq_succ_of_ne_zero (Nat.ne_of_gt (Nat.zero_lt_of_lt inside))
  have rounds := EnvId.ofUse_inj_iff (slot) (show use ≤ count by omega)
  rw [last] at now
  unfold EnvTable.find
  rw [given, EnvId.isSelf_ofUse, EnvId.slot_ofUse, if_neg Bool.false_ne_true]
  change (if (((after config events).envAt slot).isLive &&
    ((after config events).envAt slot).id == _) = true then _ else _) = _
  have distance : ids.length - (use + 1) = count - use := by omega
  simp only [now, Bool.and_eq_true, beq_iff_eq, rounds, distance]

end Kernel

end Exokernel
