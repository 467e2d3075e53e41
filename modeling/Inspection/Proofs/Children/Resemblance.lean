import Inspection.Proofs.Children.Count
import Inspection.Proofs.Formatter.Difference

/-! Descriptors of a value resemble each other where the same has been counted of its children. -/

namespace Inspection

variable {id : ValueId} {index : Nat}

/-- Two descriptors show the same, but for the number of a reference. -/
structure Descriptor.Resembles (left right : Descriptor) : Prop where
  name : right.name = left.name
  value : right.value = left.value
  typeName : right.typeName = left.typeName
  empty : right.reference = 0 ↔ left.reference = 0
  indexedCount : right.indexedCount = left.indexedCount
  namedCount : right.namedCount = left.namedCount

/-- A descriptor resembles itself. -/
theorem Descriptor.Resembles.refl (descriptor : Descriptor) : descriptor.Resembles descriptor :=
  ⟨rfl, rfl, rfl, .rfl, rfl, rfl⟩

/-- The difference in one child does not decide whether a value can be expanded. -/
theorem Classification.DiffersAt.isExpandable {left right : Classification}
    (differs : left.DiffersAt id index right) (value : Value) :
    right.isExpandable value = left.isExpandable value := by
  -- Only the kind and the origin of the formatter are looked at.
  simp only [Classification.isExpandable, differs.kind, differs.provider.isNative]

namespace Arena

variable {arena : Arena}

/-- Within the capacity a reference is empty exactly if the value cannot be expanded. -/
theorem describe_reference_eq_zero_iff (formed : arena.WellFormed) {value : Value}
    {classification : Classification} {summary : Option String}
    (room : ∀ slot, (arena.describe value classification summary).2.place? (.value value.id) =
      some slot → slot < capacity) :
    (arena.describe value classification summary).1.reference = 0 ↔
      classification.isExpandable value = false := by
  -- An offered reference is that of a place within the capacity.
  have offered := describe_reference formed value classification summary
  cases expandable : classification.isExpandable value with
  | true =>
    rw [expandable, if_pos rfl] at offered
    obtain ⟨slot, placed, same⟩ := offered
    rw [same]
    exact ⟨fun zero => absurd zero (referenceAt_ne_zero_iff.mpr (room slot placed)), nofun⟩
  | false =>
    rw [expandable, if_neg Bool.false_ne_true] at offered
    -- What cannot be expanded is offered no reference.
    exact ⟨fun _ => rfl, fun _ => offered⟩

/-- Without a known size the count that is shown follows from what has been enumerated. -/
theorem describe_namedCount_of_unsized (formed : arena.WellFormed) (value : Value)
    {classification : Classification} (summary : Option String)
    (unsized : ∀ count, classification.kind ≠ .indexed count) :
    (arena.describe value classification summary).1.namedCount =
      (arena.enumeratedCount value.id).or
        (if classification.provider.isNative then value.type.memberCount? else none) := by
  -- The description leaves the enumerated count that it has found.
  rw [describe_namedCount arena value summary unsized,
    cheapNamedCount_eq, enumeratedCount_describe formed]

/-- The reference that is offered for a value is that of its place. -/
theorem offer_reference (formed : arena.WellFormed) (value : Value) (kind : ChildrenKind) :
    (arena.offer value kind).1 = arena.referenceAt (arena.slotFor value).1 := by
  -- Marking the handle as classified moves neither the generation nor the place.
  have grown := (slotFor_grows formed value).2
  simp only [offer]
  split
  · rw [(setHandle_extends _ _ _).referenceAt, grown.referenceAt]
  · rw [grown.referenceAt]

/-- Arenas that refer to a value alike and have enumerated the same of it describe it alike. -/
theorem describe_congr {left right : Arena} (formed : left.WellFormed)
    (otherFormed : right.WellFormed) {value : Value} {classification : Classification}
    {summary : Option String}
    (reference : (right.describe value classification summary).1.reference =
      (left.describe value classification summary).1.reference)
    (counted : right.enumeratedCount value.id = left.enumeratedCount value.id) :
    (right.describe value classification summary).1 =
      (left.describe value classification summary).1 := by
  have indexed : (right.describe value classification summary).1.indexedCount =
      (left.describe value classification summary).1.indexedCount := by
    simp only [describe]
    cases classification.kind <;> rfl
  have named : (right.describe value classification summary).1.namedCount =
      (left.describe value classification summary).1.namedCount := by
    -- A size hides what has been counted; without one that is the count.
    by_cases sized : ∃ count, classification.kind = .indexed count
    · obtain ⟨count, known⟩ := sized
      rw [describe_namedCount_of_indexed left value summary known,
        describe_namedCount_of_indexed right value summary known]
    · have unsized : ∀ count, classification.kind ≠ .indexed count :=
        fun count known => sized ⟨count, known⟩
      rw [describe_namedCount_of_unsized formed value summary unsized,
        describe_namedCount_of_unsized otherFormed value summary unsized, counted]
  -- The name, the rendering and the type are those of the value.
  exact (Descriptor.mk.injEq ..).mpr ⟨rfl, rfl, rfl, reference, indexed, named⟩

/-- A handle that is put back for another identity does not show in how a value is described. -/
theorem describe_setHandle (formed : arena.WellFormed) {slot : Nat} {old new : Handle}
    (found : arena.handle? slot = some old) (target : new.target = old.target) {value : Value}
    (other : old.target.subject ≠ .value value.id) (classification : Classification)
    (summary : Option String) :
    ((arena.setHandle slot new).describe value classification summary).1 =
      (arena.describe value classification summary).1 := by
  refine describe_congr formed (setHandle_wellFormed formed found target) ?_ ?_
  · -- A value has the same place in both, or the place that is next in both.
    have place : ((arena.setHandle slot new).slotFor value).1 = (arena.slotFor value).1 := by
      have places : (arena.setHandle slot new).slotOf value.id = arena.slotOf value.id := rfl
      have sizes : (arena.setHandle slot new).size = arena.size := by simp [size, setHandle]
      simp only [slotFor, places, sizes]
      cases arena.slotOf value.id <;> rfl
    have issued := (setHandle_extends arena slot new).referenceAt
    have offered := offer_reference (setHandle_wellFormed formed found target) value
    simp only [describe]
    split
    · rw [offered, offer_reference formed, issued, place]
    · rfl
  · exact enumeratedCount_setHandle_of_subject formed found other new

/-- Two arenas that have enumerated the same of a value describe it alike. -/
theorem describe_resembles {left right : Arena} (formed : left.WellFormed)
    (otherFormed : right.WellFormed) {value : Value} {classification other : Classification}
    (differs : classification.DiffersAt id index other) {summary : Option String}
    (counted : right.enumeratedCount value.id = left.enumeratedCount value.id)
    (room : ∀ slot, (left.describe value classification summary).2.place? (.value value.id) =
      some slot → slot < capacity)
    (otherRoom : ∀ slot, (right.describe value other summary).2.place? (.value value.id) =
      some slot → slot < capacity) :
    (left.describe value classification summary).1.Resembles
      (right.describe value other summary).1 := by
  -- Name, text and type are those of the value; the reference and the counts are compared.
  refine ⟨rfl, rfl, rfl, ?_, ?_, ?_⟩
  · rw [describe_reference_eq_zero_iff formed room,
      describe_reference_eq_zero_iff otherFormed otherRoom, differs.isExpandable]
  · -- The known number is the one of the common kind.
    simp only [describe, differs.kind]
    cases classification.kind <;> rfl
  · by_cases sized : ∃ count, classification.kind = .indexed count
    · -- A known size leaves no room for the other count.
      obtain ⟨count, known⟩ := sized
      rw [describe_namedCount_of_indexed left value summary known,
        describe_namedCount_of_indexed right value summary (differs.kind.trans known)]
    · have unsized : ∀ count, classification.kind ≠ .indexed count :=
        fun count known => sized ⟨count, known⟩
      have otherUnsized : ∀ count, other.kind ≠ .indexed count := by rwa [differs.kind]
      rw [describe_namedCount_of_unsized formed value summary unsized,
        describe_namedCount_of_unsized otherFormed value summary otherUnsized, counted,
        differs.provider.isNative]

end Arena

end Inspection
