import Inspection.Proofs.Children.Arena

/-! What has been enumerated of a value is told by its own handle and by no other. -/

namespace Inspection

/-- Recording a kind tells no count. -/
@[simp] theorem Handle.markClassified_knownNamedCount (handle : Handle) (kind : ChildrenKind) :
    (handle.markClassified kind).knownNamedCount = handle.knownNamedCount := by
  cases handle with
  | mk target state fetched children namedEnd =>
    -- Only an unresolved handle records the kind, and it has no count before or after.
    cases state <;> rfl

namespace Arena

variable {id : ValueId} {arena : Arena} {slot : Nat}

/-- The number of children that have been enumerated of an identity. -/
def enumeratedCount (arena : Arena) (id : ValueId) : Option Nat := do
  let slot ← arena.slotOf id
  let handle ← arena.handle? slot
  handle.knownNamedCount

/-- What has been enumerated is told first, and what the native type tells only after it. -/
theorem cheapNamedCount_eq (arena : Arena) (value : Value) (classification : Classification) :
    arena.cheapNamedCount value classification =
      (arena.enumeratedCount value.id).or
        (if classification.provider.isNative then value.type.memberCount? else none) := by
  simp only [cheapNamedCount, enumeratedCount]
  split
  · rename_i count known
    rw [known, Option.some_or]
  · rename_i unknown
    rw [unknown, Option.none_or]

/-- The enumerated count is the one of the handle of the identity. -/
theorem enumeratedCount_of_place {handle : Handle} (placed : arena.slotOf id = some slot)
    (found : arena.handle? slot = some handle) :
    arena.enumeratedCount id = handle.knownNamedCount := by
  simp only [enumeratedCount, placed, found, Option.bind_eq_bind, Option.bind_some]

/-- Without a handle nothing has been enumerated. -/
theorem enumeratedCount_of_none (unplaced : arena.slotOf id = none) :
    arena.enumeratedCount id = none := by
  simp only [enumeratedCount, unplaced, Option.bind_eq_bind, Option.bind_none]

/-- A count that has been enumerated is told by a handle of the identity. -/
theorem exists_of_enumeratedCount (formed : arena.WellFormed) {count : Nat}
    (counted : arena.enumeratedCount id = some count) :
    ∃ slot handle, arena.handle? slot = some handle ∧ handle.target.subject = .value id ∧
      handle.knownNamedCount = some count := by
  -- The handle that is looked up was issued for the identity.
  simp only [enumeratedCount, Option.bind_eq_bind] at counted
  obtain ⟨slot, placed, counted⟩ := Option.bind_eq_some_iff.mp counted
  obtain ⟨handle, found, counted⟩ := Option.bind_eq_some_iff.mp counted
  obtain ⟨again, refound, subject⟩ := formed (.value id) slot placed
  rw [found] at refound
  cases refound
  exact ⟨slot, handle, found, subject, counted⟩

/-- Where an identity keeps its place and the handle there, it keeps its count. -/
theorem enumeratedCount_congr {before after : Arena} (places : after.slotOf id = before.slotOf id)
    (handles : ∀ slot, before.slotOf id = some slot → after.handle? slot = before.handle? slot) :
    after.enumeratedCount id = before.enumeratedCount id := by
  -- The count is looked up through the place, which is the same.
  cases placed : before.slotOf id with
  | none => rw [enumeratedCount_of_none placed, enumeratedCount_of_none (places.trans placed)]
  | some slot =>
    simp only [enumeratedCount, places, placed, Option.bind_eq_bind, Option.bind_some,
      handles slot placed]

/-- Replacing a handle shows in no count but that of its own identity. -/
theorem enumeratedCount_setHandle_of_ne (handle : Handle) (other : arena.slotOf id ≠ some slot) :
    (arena.setHandle slot handle).enumeratedCount id = arena.enumeratedCount id := by
  -- The identity has its handle in another place.
  have kept : (arena.setHandle slot handle).slotOf id = arena.slotOf id := rfl
  apply enumeratedCount_congr kept
  intro place placed
  have different : slot ≠ place := fun equal => other (placed.trans (congrArg some equal.symm))
  rw [handle?_setHandle, if_neg different]

/-- A handle that is replaced tells no count but that of the identity that it stands for. -/
theorem enumeratedCount_setHandle_of_subject (formed : arena.WellFormed) {old : Handle}
    (found : arena.handle? slot = some old) (other : old.target.subject ≠ .value id)
    (new : Handle) : (arena.setHandle slot new).enumeratedCount id = arena.enumeratedCount id := by
  apply enumeratedCount_setHandle_of_ne
  -- The handle in the place of the identity stands for the identity.
  intro placed
  obtain ⟨again, refound, subject⟩ := formed (.value id) slot placed
  rw [found] at refound
  cases refound
  exact other subject

/-- Replacing a handle by one that tells the same count shows in no count. -/
theorem enumeratedCount_setHandle {old new : Handle} (found : arena.handle? slot = some old)
    (counts : new.knownNamedCount = old.knownNamedCount) (id : ValueId) :
    (arena.setHandle slot new).enumeratedCount id = arena.enumeratedCount id := by
  by_cases here : arena.slotOf id = some slot
  · -- The identity has its handle in this very place.
    have refound : (arena.setHandle slot new).handle? slot = some new := by
      simp [handle?_setHandle, found]
    rw [enumeratedCount_of_place here found, ← counts]
    exact enumeratedCount_of_place here refound
  · -- Anywhere else it is not seen.
    exact enumeratedCount_setHandle_of_ne new here

/-- A new handle has enumerated nothing. -/
theorem enumeratedCount_slotFor (formed : arena.WellFormed) (value : Value) (id : ValueId) :
    (arena.slotFor value).2.enumeratedCount id = arena.enumeratedCount id := by
  cases found : arena.slotOf value.id with
  -- A value that has a handle gets no other.
  | some slot => simp only [slotFor, found]
  | none =>
    have adds := slotFor_adds found
    by_cases same : id = value.id
    · -- The added handle is fresh.
      have fresh : (arena.slotFor value).2.handle? arena.size = some (.fresh (.value value)) := by
        simp [handle?, adds.handles, size]
      subst same
      rw [enumeratedCount_of_none found, enumeratedCount_of_place adds.added fresh]
      rfl
    · -- Every other identity keeps its place, which lies before the added one.
      apply enumeratedCount_congr (adds.others (.value id) fun equal =>
        same (Subject.value.inj equal))
      intro slot placed
      have taken : slot < arena.size :=
        formed.lt_size (show arena.place? (.value id) = some slot from placed)
      simp only [handle?, adds.handles, Array.getElem?_push]
      rw [if_neg (show slot ≠ arena.handles.size from Nat.ne_of_lt taken)]

/-- Describing a value enumerates nothing. -/
theorem enumeratedCount_describe (formed : arena.WellFormed) (value : Value)
    (classification : Classification) (summary : Option String) (id : ValueId) :
    (arena.describe value classification summary).2.enumeratedCount id =
      arena.enumeratedCount id := by
  -- At most a fresh handle is added, and recording the kind tells no count.
  have added := enumeratedCount_slotFor formed value id
  simp only [describe]
  split
  · simp only [offer]
    split
    · -- The kind is recorded in the handle that is offered.
      rename_i handle found
      exact (enumeratedCount_setHandle found (Handle.markClassified_knownNamedCount handle _)
        id).trans added
    · exact added
  · rfl

end Arena

end Inspection
