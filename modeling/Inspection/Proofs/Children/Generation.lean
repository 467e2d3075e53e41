import Inspection.Proofs.Children.Arena

/-! The generation of an arena shows in the high bits of its references and nowhere else. -/

namespace Inspection

/-- A descriptor without the generation of its reference. -/
def Descriptor.withoutGeneration (descriptor : Descriptor) : Descriptor :=
  { descriptor with reference := Reference.withoutGeneration descriptor.reference }

namespace Arena

/-- The same handles in another generation. -/
def inGeneration (arena : Arena) (generation : UInt32) : Arena := { arena with generation }

variable (arena : Arena) (generation : UInt32)

/-- Without its generation a reference is its place plus one. -/
theorem withoutGeneration_referenceAt {arena : Arena} {slot : Nat} (fits : slot < capacity) :
    Reference.withoutGeneration (arena.referenceAt slot) = Int64.ofNat (slot + 1) := by
  -- Within the capacity a reference is a packed word, and the mask keeps its place.
  have bound : arena.generation.toNat % 0x800 < 0x800 := Nat.mod_lt _ (by decide)
  unfold capacity at fits
  rw [referenceAt_of_fits fits, Reference.withoutGeneration_pack bound (by omega)]

/-- References to one place differ only in their generation. -/
theorem withoutGeneration_inGeneration (slot : Nat) :
    Reference.withoutGeneration ((arena.inGeneration generation).referenceAt slot) =
      Reference.withoutGeneration (arena.referenceAt slot) := by
  -- The two generations differ only in bits that are cleared.
  by_cases fits : slot < capacity
  · rw [withoutGeneration_referenceAt fits, withoutGeneration_referenceAt fits]
  · -- Beyond the capacity both references are empty.
    rw [referenceAt_of_large (Nat.le_of_not_lt fits), referenceAt_of_large (Nat.le_of_not_lt fits)]

/-- References that agree without their generation lead to one place. -/
theorem eq_of_withoutGeneration {left right : Arena} {slot other : Nat} (fits : slot < capacity)
    (otherFits : other < capacity)
    (same : Reference.withoutGeneration (left.referenceAt slot) =
      Reference.withoutGeneration (right.referenceAt other)) : slot = other := by
  -- What is left of each reference is the number of its place plus one.
  rw [withoutGeneration_referenceAt fits, withoutGeneration_referenceAt otherFits] at same
  have numbers := congrArg Int64.toInt same
  unfold capacity at fits otherFits
  rw [Int64.toInt_ofNat_of_lt (by omega), Int64.toInt_ofNat_of_lt (by omega)] at numbers
  omega

/-- Without its generation a reference is empty only if it was empty before. -/
theorem withoutGeneration_ne_zero {arena : Arena} {slot : Nat} (fits : slot < capacity) :
    Reference.withoutGeneration (arena.referenceAt slot) ≠ 0 := by
  -- Places are counted from one, so the number that is left is not zero.
  intro zero
  rw [withoutGeneration_referenceAt fits] at zero
  have number := congrArg Int64.toInt zero
  unfold capacity at fits
  rw [Int64.toInt_ofNat_of_lt (by omega), Int64.toInt_zero] at number
  omega

/-- Finding or making a value's handle does not look at the generation. -/
theorem slotFor_inGeneration (value : Value) :
    (arena.inGeneration generation).slotFor value =
      ((arena.slotFor value).1, (arena.slotFor value).2.inGeneration generation) := by
  -- The look-up is by identity alone.
  have same : (arena.inGeneration generation).slotOf value.id = arena.slotOf value.id := rfl
  simp only [slotFor, same]
  cases arena.slotOf value.id <;> rfl

/-- Finding or making a frame's handle does not look at the generation. -/
theorem slotForLocals_inGeneration (frame : Nat) :
    (arena.inGeneration generation).slotForLocals frame =
      ((arena.slotForLocals frame).1, (arena.slotForLocals frame).2.inGeneration generation) := by
  -- The look-up is by frame alone.
  have same : (arena.inGeneration generation).byFrame = arena.byFrame := rfl
  simp only [slotForLocals, same]
  cases arena.byFrame.lookup frame <;> rfl

/-- The locals of a frame are given out alike in every generation. -/
theorem locals_inGeneration (frame : Nat) :
    Reference.withoutGeneration ((arena.inGeneration generation).locals frame).1 =
        Reference.withoutGeneration (arena.locals frame).1 ∧
      ((arena.inGeneration generation).locals frame).2 =
        (arena.locals frame).2.inGeneration generation := by
  simp only [locals, slotForLocals_inGeneration]
  exact ⟨withoutGeneration_inGeneration _ generation _, trivial⟩

/-- A value is offered alike in every generation. -/
theorem offer_inGeneration (value : Value) (kind : ChildrenKind) :
    Reference.withoutGeneration ((arena.inGeneration generation).offer value kind).1 =
        Reference.withoutGeneration (arena.offer value kind).1 ∧
      ((arena.inGeneration generation).offer value kind).2 =
        (arena.offer value kind).2.inGeneration generation := by
  -- The place is found or made alike, and the generation enters only with the reference.
  simp only [offer, slotFor_inGeneration]
  have same : ((arena.slotFor value).2.inGeneration generation).handle? (arena.slotFor value).1 =
      (arena.slotFor value).2.handle? (arena.slotFor value).1 := rfl
  rw [same]
  cases (arena.slotFor value).2.handle? (arena.slotFor value).1 with
  | none => exact ⟨withoutGeneration_inGeneration _ generation _, rfl⟩
  | some handle => exact ⟨withoutGeneration_inGeneration
      ((arena.slotFor value).2.setHandle _ (handle.markClassified kind)) generation _, rfl⟩

/-- A value is described alike in every generation. -/
theorem describe_inGeneration (value : Value) (classification : Classification)
    (summary : Option String) :
    ((arena.inGeneration generation).describe value classification summary).1.withoutGeneration =
        (arena.describe value classification summary).1.withoutGeneration ∧
      ((arena.inGeneration generation).describe value classification summary).2 =
        (arena.describe value classification summary).2.inGeneration generation := by
  -- Only an expandable value is offered at all.
  obtain ⟨references, arenas⟩ := offer_inGeneration arena generation value classification.kind
  simp only [describe]
  by_cases expandable : classification.isExpandable value = true
  · rw [if_pos expandable, if_pos expandable]
    simp only [Descriptor.withoutGeneration, references, arenas]
    -- The counts are read off handles that are the same in both.
    have handles : ((arena.offer value classification.kind).2.inGeneration
        generation).cheapNamedCount value classification =
        (arena.offer value classification.kind).2.cheapNamedCount value classification := rfl
    simp only [handles, and_self]
  · rw [if_neg expandable, if_neg expandable]
    have handles : (arena.inGeneration generation).cheapNamedCount value classification =
        arena.cheapNamedCount value classification := rfl
    simp only [Descriptor.withoutGeneration, handles, and_self]

end Arena

end Inspection
