import Inspection.Proofs.Children.Arena

/-! Generations go round a cycle of 2047, and only then does an old reference resolve again. -/

namespace Inspection

namespace Reference

/-- The next generation is one further on a cycle that leaves out zero. -/
theorem nextGeneration_toNat {generation : UInt32} (bounded : generation.toNat ≤ 2047) :
    (nextGeneration generation).toNat = generation.toNat % 2047 + 1 := by
  -- Counting on cannot overflow, so cutting to eleven bits is taking the remainder.
  have cut : ((generation + 1) &&& generationMask).toNat = (generation.toNat + 1) % 0x800 := by
    rw [toNat_and_generationMask, UInt32.toNat_add, UInt32.toNat_one]
    omega
  simp only [nextGeneration]
  split
  · -- Only the last generation of the cycle is cut to zero.
    rename_i zero
    have number := congrArg UInt32.toNat zero
    rw [cut, UInt32.toNat_zero] at number
    rw [UInt32.toNat_one]
    omega
  · rename_i nonzero
    -- Any other one is below the mask already, or starts anew from zero.
    have number : ((generation + 1) &&& generationMask).toNat ≠ 0 := fun zero =>
      nonzero (UInt32.toNat_inj.mp zero)
    rw [cut] at number ⊢
    omega

end Reference

namespace Arena

/-- What happens to an arena in the course of a session. -/
inductive Event where
  | locals (frame : Nat)
  | slotFor (value : Value)
  /-- A handle is replaced by what it has become. -/
  | setHandle (slot : Nat) (handle : Handle)
  | invalidate

/-- Whether an event ends a generation. -/
def Event.endsGeneration : Event → Bool
  | invalidate => true
  | locals _ | slotFor _ | setHandle _ _ => false

/-- The number of generations that end with some events. -/
def Event.generationsEnded (events : List Event) : Nat := events.countP endsGeneration

/-- The arena after an event. -/
def undergo (arena : Arena) : Event → Arena
  | .locals frame => (arena.locals frame).2
  | .slotFor value => (arena.slotFor value).2
  | .setHandle slot handle => arena.setHandle slot handle
  | .invalidate => arena.invalidate

/-- The arena after some events. -/
def after (arena : Arena) (events : List Event) : Arena := events.foldl undergo arena

/-- The generations that an arena goes through. -/
def InCycle (arena : Arena) : Prop :=
  1 ≤ arena.generation.toNat ∧ arena.generation.toNat ≤ 2047

variable {arena : Arena}

/-- An event moves the generation one further if it ends it, and else not at all. -/
theorem undergo_generation (bounded : arena.InCycle) (event : Event) :
    (arena.undergo event).generation.toNat =
      if event.endsGeneration then arena.generation.toNat % 2047 + 1
      else arena.generation.toNat := by
  -- Handles come and change within a generation.
  cases event with
  | locals frame =>
    simp only [undergo, Arena.locals, slotForLocals]
    split <;> rfl
  | slotFor value =>
    simp only [undergo, Arena.slotFor]
    split <;> rfl
  | setHandle slot handle => rfl
  | invalidate => exact Reference.nextGeneration_toNat bounded.2

/-- An event leaves the generation in its cycle. -/
theorem InCycle.undergo (bounded : arena.InCycle) (event : Event) :
    (arena.undergo event).InCycle := by
  -- The generation stays or is a remainder counted from one.
  unfold InCycle at bounded ⊢
  rw [undergo_generation bounded event]
  split
  · omega
  · exact bounded

/-- Any events leave the generation in its cycle. -/
theorem InCycle.after (bounded : arena.InCycle) (events : List Event) :
    (arena.after events).InCycle := by
  -- The induction is on the events, from the arena that the first one leaves.
  induction events generalizing arena with
  | nil => exact bounded
  | cons event rest ih => exact ih (bounded.undergo event)

/-- The generation is as far round its cycle as generations have ended. -/
theorem after_generation (bounded : arena.InCycle) (events : List Event) :
    (arena.after events).generation.toNat =
      (arena.generation.toNat - 1 + Event.generationsEnded events) % 2047 + 1 := by
  -- Each event adds to both sides alike; the remainder absorbs the turns of the cycle.
  induction events generalizing arena with
  | nil =>
    unfold InCycle at bounded
    simp only [after, List.foldl_nil, Event.generationsEnded, List.countP_nil]
    omega
  | cons event rest ih =>
    have later := ih (bounded.undergo event)
    rw [undergo_generation bounded event] at later
    simp only [after, List.foldl_cons, Event.generationsEnded, List.countP_cons] at later ⊢
    rw [later]
    unfold InCycle at bounded
    split <;> omega

/-- A new arena is in its first generation. -/
theorem inCycle_empty : empty.InCycle := ⟨by decide, by decide⟩

/--
A reference is refused from the end of its generation until the cycle has come round to it again.

After any history the generation stays in the cycle, and the references to the places that are taken
are not negative and carry it.
-/
theorem resolve_after_generations (past later : List Event) {slot : Nat}
    (issued : (empty.after past).referenceAt slot ≠ 0) :
    let issuer := empty.after past
    let arena := issuer.after later
    let ended := Event.generationsEnded later
    (1 ≤ arena.generation.toNat ∧ arena.generation.toNat ≤ 2047) ∧
      (∀ other < arena.size, 0 ≤ arena.referenceAt other ∧ (arena.referenceAt other ≠ 0 →
        ∃ place, Reference.decode (arena.referenceAt other) = some (arena.generation, place))) ∧
      (¬ 2047 ∣ ended → arena.resolve (issuer.referenceAt slot) = none) ∧
      (2047 ∣ ended →
        arena.resolve (issuer.referenceAt slot) =
          if slot < arena.size then some slot else none) := by
  intro issuer arena ended
  have began : issuer.InCycle := inCycle_empty.after past
  have goes : arena.InCycle := began.after later
  have fits : slot < capacity := referenceAt_ne_zero_iff.mp issued
  have moved : arena.generation.toNat =
      (issuer.generation.toNat - 1 + ended) % 2047 + 1 := after_generation began later
  unfold InCycle at began goes
  -- Both generations are below the mask, so references carry them whole.
  have whole : issuer.generation.toNat % 0x800 = arena.generation.toNat % 0x800 ↔ 2047 ∣ ended := by
    omega
  refine ⟨goes, ?_, ?_, ?_⟩
  · -- A place that is taken may lie behind those that references reach, and is then not offered.
    intro other _
    by_cases inside : other < capacity
    · have same : arena.generation.toNat % 0x800 = arena.generation.toNat := by omega
      rw [Int64.le_iff_toInt_le, referenceAt_toInt inside, Int64.toInt_zero]
      refine ⟨by omega, fun _ => ⟨UInt64.ofNat other, ?_⟩⟩
      unfold capacity at inside
      rw [referenceAt_of_fits inside, Reference.decode_pack (Nat.mod_lt _ (by decide)) inside, same,
        UInt32.ofNat_toNat]
    · rw [referenceAt_of_large (Nat.le_of_not_lt inside)]
      exact ⟨by decide, fun nonzero => absurd rfl nonzero⟩
  · -- Apart from whole turns the generations differ, so the reference is refused.
    intro apart
    rw [resolve_issued arena fits, if_neg fun both => apart (whole.mp both.1)]
  · -- After whole turns the place alone decides.
    intro round
    rw [resolve_issued arena fits]
    simp only [whole.mpr round, true_and]

/-- After one whole cycle a reference leads to whatever has taken its place. -/
theorem resolve_after_one_cycle :
    let issuer := empty.after [.locals 0]
    let arena := issuer.after (List.replicate 2047 .invalidate ++ [.locals 3])
    issuer.referenceAt 0 ≠ 0 ∧
      (issuer.after [.invalidate, .locals 3]).resolve (issuer.referenceAt 0) = none ∧
      arena.resolve (issuer.referenceAt 0) = some 0 := by
  intro issuer arena
  have issued : issuer.referenceAt 0 ≠ 0 := by decide
  have ended : Event.generationsEnded (List.replicate 2047 .invalidate ++ [.locals 3]) = 2047 := by
    rw [Event.generationsEnded, List.countP_append, List.countP_replicate]
    rfl
  have taken : 0 < arena.size := by decide +kernel
  -- One generation has ended in the first history, and one whole turn in the second.
  have stale := resolve_after_generations [.locals 0] [.invalidate, .locals 3] issued
  have again := resolve_after_generations [.locals 0]
    (List.replicate 2047 .invalidate ++ [.locals 3]) issued
  refine ⟨issued, stale.2.2.1 (by decide), ?_⟩
  rw [again.2.2.2 ⟨1, ended⟩, if_pos taken]

/--
A word resolves to a place by its low fifty-two bits alone.

Of a positive word these bits have to be the reference of a place in use.
A word without higher bits, or a negative one, resolves exactly if it is that reference.
-/
theorem resolve_eq_some_iff (events : List Event) (reference : Int64) (slot : Nat) :
    let arena := empty.after events
    (arena.resolve reference = some slot ↔
      slot < arena.size ∧ arena.referenceAt slot ≠ 0 ∧ 0 < reference ∧
        reference.toInt % 0x10000000000000 = (arena.referenceAt slot).toInt) ∧
      (reference.toInt < 0x10000000000000 →
        (arena.resolve reference = some slot ↔
          slot < arena.size ∧ arena.referenceAt slot = reference ∧ reference ≠ 0)) := by
  intro arena
  have bounded : arena.InCycle := inCycle_empty.after events
  unfold InCycle at bounded
  -- A reference that is not empty is its generation above the number of its place.
  have issued : arena.referenceAt slot ≠ 0 ↔ slot < capacity := referenceAt_ne_zero_iff
  have number : slot < capacity → (arena.referenceAt slot).toInt =
      (arena.generation.toNat % 0x800 : Nat) * 0x100000 + (slot + 1) := referenceAt_toInt
  have exact : arena.resolve reference = some slot ↔
      slot < arena.size ∧ arena.referenceAt slot ≠ 0 ∧ 0 < reference ∧
        reference.toInt % 0x10000000000000 = (arena.referenceAt slot).toInt := by
    rw [issued, Int64.lt_iff_toInt_lt, Int64.toInt_zero]
    rcases Int.lt_or_le 0 reference.toInt with positive | nonpositive
    · -- A positive word is cut to its place and its generation.
      have small := Reference.toNat_lt_of_nonneg (Int.le_of_lt positive)
      have value := Reference.toInt_of_toNat rfl small
      rw [resolve_of_toNat rfl small]
      unfold capacity at number ⊢
      omega
    · -- A word that is not positive is decoded to nothing.
      have refused : Reference.decode reference = none := by
        rw [Reference.decode, if_pos (Int64.le_iff_toInt_le.mpr nonpositive)]
      simp only [resolve, refused, reduceCtorEq, false_iff]
      omega
  refine ⟨exact, fun low => exact.trans ?_⟩
  rw [Int64.lt_iff_toInt_lt, Int64.toInt_zero]
  constructor
  · rintro ⟨taken, nonzero, positive, same⟩
    -- A word without higher bits is its own remainder.
    have equal : arena.referenceAt slot = reference := by
      rw [← Int64.toInt_inj]
      omega
    exact ⟨taken, equal, equal ▸ nonzero⟩
  · rintro ⟨taken, equal, nonzero⟩
    rw [← equal] at nonzero low ⊢
    -- A reference is positive and has no higher bits.
    have value := number (issued.mp nonzero)
    exact ⟨taken, nonzero, by omega, by omega⟩

/-- A word that was never given out resolves if only its high bits tell it from a reference. -/
theorem resolve_of_unissued :
    let arena := empty.after [.locals 0]
    arena.resolve 4503599628419073 = some 0 ∧ arena.resolve 1048577 = some 0 ∧
      ∀ slot, arena.referenceAt slot ≠ 4503599628419073 := by
  intro arena
  refine ⟨by decide, by decide, fun slot same => ?_⟩
  -- References that were given out stay below two to the thirty-one.
  by_cases fits : slot < capacity
  · have number := congrArg Int64.toInt same
    rw [referenceAt_toInt fits] at number
    have generation : arena.generation.toNat = 1 := by decide
    unfold capacity at fits
    rw [generation] at number
    change _ = (4503599628419073 : Int) at number
    omega
  · rw [referenceAt_of_large (Nat.le_of_not_lt fits)] at same
    exact absurd same (by decide)

end Arena

end Inspection
