import Inspection.Descriptor
import Inspection.Proofs.Children.Handle
import Inspection.Proofs.Children.Reference

/-! Each subject keeps one place in the arena, and only a reference to a taken place resolves. -/

namespace Inspection

/-- What a handle is issued for. -/
inductive Subject where
  /-- The local variables of a frame. -/
  | locals (frame : Nat)
  /-- The value of an identity. -/
  | value (id : ValueId)
  deriving DecidableEq, Repr

/-- What a target is issued for. -/
def HandleTarget.subject : HandleTarget → Subject
  | .locals frame => .locals frame
  | .value target => .value target.id

/-- The number of places that references reach. -/
def Arena.capacity : Nat := 0xFFFFF

namespace Arena

variable {arena before after : Arena} {slot : Nat}

/-- The place of the handle issued for a subject. -/
def place? (arena : Arena) : Subject → Option Nat
  | .locals frame => arena.byFrame.lookup frame
  | .value id => arena.slotOf id

/-- Every look-up leads to a handle that was issued for its subject. -/
def WellFormed (arena : Arena) : Prop :=
  ∀ subject slot, arena.place? subject = some slot →
    ∃ handle, arena.handle? slot = some handle ∧ handle.target.subject = subject

/-- A later arena of the same stop keeps the place of every subject. -/
structure Extends (before after : Arena) : Prop where
  generation : after.generation = before.generation
  places : ∀ subject slot, before.place? subject = some slot → after.place? subject = some slot

/-- An arena extends itself. -/
theorem Extends.refl (arena : Arena) : Extends arena arena := ⟨rfl, fun _ _ placed => placed⟩

/-- What holds from arena to arena holds along a stop. -/
theorem Extends.trans {first second third : Arena} (early : Extends first second)
    (late : Extends second third) : Extends first third :=
  ⟨late.generation.trans early.generation,
    fun subject slot placed => late.places subject slot (early.places subject slot placed)⟩

/-- Arenas of one generation issue the same references. -/
theorem Extends.referenceAt (grown : Extends before after) (slot : Nat) :
    after.referenceAt slot = before.referenceAt slot := by
  -- A reference is made of the generation and the place.
  unfold Arena.referenceAt Arena.reference
  rw [grown.generation]

/-- A place in use is a place of the arena. -/
theorem WellFormed.lt_size (formed : arena.WellFormed) {subject : Subject}
    (placed : arena.place? subject = some slot) : slot < arena.size := by
  -- The handle that stands there shows that the place exists.
  obtain ⟨handle, found, _⟩ := formed subject slot placed
  exact (Array.getElem?_eq_some_iff.mp found).choose

/-! References of one arena. -/

/-- Within the capacity a reference packs the generation above the place. -/
theorem referenceAt_of_fits (fits : slot < capacity) :
    arena.referenceAt slot = Reference.pack (arena.generation.toNat % 0x800) (slot + 1) := by
  -- The capacity is far below the bound of a word, so the place survives as one.
  unfold capacity at fits
  rw [referenceAt, reference, Reference.slotAt_of_lt (by omega), Reference.ofSlot,
    Reference.encode_of_fits arena.generation fits, Option.getD_some]

/-- Beyond the capacity there is only the empty reference. -/
theorem referenceAt_of_large (large : capacity ≤ slot) : arena.referenceAt slot = 0 := by
  -- Whether the place is its own word or stands for the last one, it is too large for a tag.
  obtain ⟨word, same, beyond, within⟩ := Reference.slotAt_of_le large
  rw [referenceAt, reference, same, Reference.ofSlot,
    Reference.encode_of_large arena.generation beyond within, Option.getD_none]

/-- Within the capacity a reference is the number of its bits. -/
theorem referenceAt_toInt (fits : slot < capacity) :
    (arena.referenceAt slot).toInt =
      (arena.generation.toNat % 0x800 : Nat) * 0x100000 + (slot + 1) := by
  -- The generation stands above the twenty bits of the place.
  have bound : arena.generation.toNat % 0x800 < 0x800 := Nat.mod_lt _ (by decide)
  unfold capacity at fits
  rw [referenceAt_of_fits fits, Reference.pack_toInt bound (by omega)]
  omega

/-- A reference is empty exactly if its place lies beyond the capacity. -/
theorem referenceAt_ne_zero_iff : arena.referenceAt slot ≠ 0 ↔ slot < capacity := by
  -- Within the capacity the number is at least one, since places are counted from one.
  constructor
  · intro nonzero
    exact Nat.lt_of_not_le fun large => nonzero (referenceAt_of_large large)
  · intro fits zero
    have number := congrArg Int64.toInt zero
    rw [referenceAt_toInt fits, Int64.toInt_zero] at number
    omega

/-- A word resolves by its low bits, and of the rest only thirty-two bits are looked at. -/
theorem resolve_of_toNat {reference : Int64} {number : Nat}
    (bits : reference.toBitVec.toNat = number) (small : number < 0x8000000000000000) :
    arena.resolve reference = some slot ↔
      number / 0x100000 % 0x100000000 = arena.generation.toNat % 0x800 ∧
        number % 0x100000 = slot + 1 ∧ slot < arena.size := by
  have current : UInt32.ofNat (number / 0x100000) = arena.generation &&& Reference.generationMask ↔
      number / 0x100000 % 0x100000000 = arena.generation.toNat % 0x800 := by
    rw [← UInt32.toNat_inj, UInt32.toNat_ofNat', Reference.toNat_and_generationMask]
  have place : (UInt64.ofNat (number % 0x100000 - 1)).toNat = number % 0x100000 - 1 :=
    UInt64.toNat_ofNat_of_lt' (show number % 0x100000 - 1 < 0x10000000000000000 by omega)
  simp only [resolve, Reference.decode_of_toNat bits small]
  by_cases empty : number % 0x100000 = 0
  · -- Places are counted from one, so no place has this word.
    rw [if_pos empty, empty]
    simp
  · rw [if_neg empty]
    simp only [current, place]
    constructor
    · intro resolved
      split at resolved
      · rename_i both
        cases resolved
        exact ⟨both.1, by omega, both.2⟩
      · cases resolved
    · rintro ⟨generation, low, taken⟩
      have same : number % 0x100000 - 1 = slot := by omega
      rw [same, if_pos ⟨generation, taken⟩]

/-- A reference resolves wherever its generation is the present one and its place is taken. -/
theorem resolve_issued {issuer : Arena} (arena : Arena) (fits : slot < capacity) :
    arena.resolve (issuer.referenceAt slot) =
      if issuer.generation.toNat % 0x800 = arena.generation.toNat % 0x800 ∧ slot < arena.size
      then some slot else none := by
  -- The reference is a packed word, which is taken apart again.
  have bound : issuer.generation.toNat % 0x800 < 0x800 := Nat.mod_lt _ (by decide)
  unfold capacity at fits
  have bits := Reference.toNat_pack bound (show slot + 1 < 0x100000 by omega)
  rw [referenceAt_of_fits fits]
  split
  · rename_i both
    rw [resolve_of_toNat bits (by omega)]
    omega
  · rename_i neither
    rw [Option.eq_none_iff_forall_ne_some]
    intro other resolved
    rw [resolve_of_toNat bits (by omega)] at resolved
    exact neither (by omega)

/-- The reference to a place in use resolves to that place. -/
theorem resolve_reference (fits : slot < capacity) (taken : slot < arena.size) :
    arena.resolve (arena.referenceAt slot) = some slot := by
  rw [resolve_issued arena fits, if_pos ⟨rfl, taken⟩]

/-! Handles are added at the end and replaced in place. -/

/-- What a handle is added for is found at the end, and every place found before stays. -/
structure Adds (before after : Arena) (handle : Handle) : Prop where
  generation : after.generation = before.generation
  handles : after.handles = before.handles.push handle
  added : after.place? handle.target.subject = some before.size
  others : ∀ subject, subject ≠ handle.target.subject →
    after.place? subject = before.place? subject

/-- Adding a handle for a new subject keeps the look-ups right. -/
theorem Adds.wellFormed {handle : Handle} (adds : Adds before after handle)
    (formed : before.WellFormed) : after.WellFormed := by
  -- The added subject leads to the new handle, and every other one to where it led before.
  intro subject slot placed
  by_cases new : subject = handle.target.subject
  · subst new
    rw [adds.added] at placed
    cases placed
    exact ⟨handle, by simp [handle?, adds.handles, size], rfl⟩
  · rw [adds.others subject new] at placed
    obtain ⟨found, at_, same⟩ := formed subject slot placed
    -- A place in use lies before the added one.
    have taken := formed.lt_size placed
    refine ⟨found, ?_, same⟩
    simp only [handle?, adds.handles, Array.getElem?_push]
    rw [if_neg (show slot ≠ before.handles.size from Nat.ne_of_lt taken)]
    exact at_

/-- Adding a handle for a new subject leaves every other place alone. -/
theorem Adds.extends {handle : Handle} (adds : Adds before after handle)
    (new : before.place? handle.target.subject = none) : Extends before after := by
  -- A subject that had a place is not the one that is added.
  refine ⟨adds.generation, fun subject slot placed => ?_⟩
  have different : subject ≠ handle.target.subject := by
    intro same
    rw [same, new] at placed
    cases placed
  rw [adds.others subject different]
  exact placed

/-- A value without a handle gets one at the end. -/
theorem slotFor_adds {value : Value} (new : arena.slotOf value.id = none) :
    Adds arena (arena.slotFor value).2 (.fresh (.value value)) := by
  -- The new entry stands in front of the look-up of values, and frames are not touched.
  simp only [slotFor, new]
  refine ⟨rfl, rfl, ?_, ?_⟩
  · simp [place?, slotOf, Handle.fresh, HandleTarget.subject]
  · intro subject different
    cases subject with
    | locals frame => rfl
    | value id =>
      have other : (id == value.id) = false := by
        simpa [Handle.fresh, HandleTarget.subject] using different
      simp [place?, slotOf, List.lookup_cons, other]

/-- A frame without a handle gets one at the end. -/
theorem slotForLocals_adds {frame : Nat} (new : arena.byFrame.lookup frame = none) :
    Adds arena (arena.slotForLocals frame).2 (.fresh (.locals frame)) := by
  -- The new entry stands in front of the look-up of frames, and values are not touched.
  simp only [slotForLocals, new]
  refine ⟨rfl, rfl, ?_, ?_⟩
  · simp [place?, Handle.fresh, HandleTarget.subject]
  · intro subject different
    cases subject with
    | locals other =>
      have distinct : (other == frame) = false := by
        simpa [Handle.fresh, HandleTarget.subject] using different
      simp [place?, List.lookup_cons, distinct]
    | value id => rfl

/-- The place of a value's handle is the one that is looked up from then on. -/
theorem slotFor_place (arena : Arena) (value : Value) :
    (arena.slotFor value).2.place? (.value value.id) = some (arena.slotFor value).1 := by
  -- Either the place was found, or the look-up has just been given it.
  cases found : arena.slotOf value.id with
  | some slot => simp [slotFor, found, place?]
  | none =>
    have adds := (slotFor_adds found).added
    simpa [slotFor, found, Handle.fresh, HandleTarget.subject] using adds

/-- The place of a frame's handle is the one that is looked up from then on. -/
theorem slotForLocals_place (arena : Arena) (frame : Nat) :
    (arena.slotForLocals frame).2.place? (.locals frame) =
      some (arena.slotForLocals frame).1 := by
  -- Either the place was found, or the look-up has just been given it.
  cases found : arena.byFrame.lookup frame with
  | some slot => simp [slotForLocals, found, place?]
  | none =>
    have adds := (slotForLocals_adds found).added
    simpa [slotForLocals, found, Handle.fresh, HandleTarget.subject] using adds

/-- Finding or making a value's handle keeps the look-ups right and every place. -/
theorem slotFor_grows (formed : arena.WellFormed) (value : Value) :
    (arena.slotFor value).2.WellFormed ∧ Extends arena (arena.slotFor value).2 := by
  -- A known value changes nothing; a new one adds a handle.
  cases found : arena.slotOf value.id with
  | some slot =>
    simp only [slotFor, found]
    exact ⟨formed, .refl arena⟩
  | none => exact ⟨(slotFor_adds found).wellFormed formed, (slotFor_adds found).extends found⟩

/-- Finding or making a frame's handle keeps the look-ups right and every place. -/
theorem slotForLocals_grows (formed : arena.WellFormed) (frame : Nat) :
    (arena.slotForLocals frame).2.WellFormed ∧ Extends arena (arena.slotForLocals frame).2 := by
  -- A known frame changes nothing; a new one adds a handle.
  cases found : arena.byFrame.lookup frame with
  | some slot =>
    simp only [slotForLocals, found]
    exact ⟨formed, .refl arena⟩
  | none =>
    exact ⟨(slotForLocals_adds found).wellFormed formed, (slotForLocals_adds found).extends found⟩

/-- Replacing a handle moves no place. -/
@[simp] theorem place?_setHandle (arena : Arena) (slot : Nat) (handle : Handle)
    (subject : Subject) : (arena.setHandle slot handle).place? subject = arena.place? subject := by
  cases subject <;> rfl

/-- The handle at a place after one has been replaced. -/
theorem handle?_setHandle (arena : Arena) (slot other : Nat) (handle : Handle) :
    (arena.setHandle slot handle).handle? other =
      if slot = other then (arena.handle? other).map fun _ => handle else arena.handle? other := by
  -- Outside the array nothing is replaced, and there is no handle to speak of either.
  simp only [setHandle, handle?, Array.getElem?_setIfInBounds]
  by_cases same : slot = other
  · subst same
    by_cases inside : slot < arena.handles.size
    · simp [inside]
    · simp [inside]
  · simp [same]

/-- A handle that has replaced another stands in its place. -/
theorem handle?_setHandle_self {old : Handle} (found : arena.handle? slot = some old)
    (handle : Handle) : (arena.setHandle slot handle).handle? slot = some handle := by
  rw [handle?_setHandle, if_pos rfl, found]
  rfl

/-- Replacing a handle by one of the same target keeps the look-ups right. -/
theorem setHandle_wellFormed (formed : arena.WellFormed) {old new : Handle}
    (found : arena.handle? slot = some old) (same : new.target = old.target) :
    (arena.setHandle slot new).WellFormed := by
  -- Places do not move, and the handle at the replaced one keeps its subject.
  intro subject place placed
  rw [place?_setHandle] at placed
  obtain ⟨handle, at_, subjectEq⟩ := formed subject place placed
  rw [handle?_setHandle]
  by_cases here : slot = place
  · subst here
    rw [found] at at_
    cases at_
    exact ⟨new, by simp [found], by rw [same, subjectEq]⟩
  · exact ⟨handle, by simp [here, at_], subjectEq⟩

/-- Replacing a handle keeps every place. -/
theorem setHandle_extends (arena : Arena) (slot : Nat) (handle : Handle) :
    Extends arena (arena.setHandle slot handle) :=
  ⟨rfl, fun subject place placed => by rw [place?_setHandle]; exact placed⟩

/-- An arena without handles has nothing to look up. -/
theorem wellFormed_of_empty {generation : UInt32} :
    (⟨generation, #[], [], []⟩ : Arena).WellFormed := by
  -- Both look-ups are empty.
  intro subject slot placed
  cases subject <;> cases placed

/-- An offered value keeps its place, and the reference is that of the place. -/
theorem offer_spec (formed : arena.WellFormed) (value : Value) (kind : ChildrenKind) :
    (arena.offer value kind).2.WellFormed ∧ Extends arena (arena.offer value kind).2 ∧
      ∃ slot, (arena.offer value kind).2.place? (.value value.id) = some slot ∧
        (arena.offer value kind).1 = (arena.offer value kind).2.referenceAt slot := by
  -- The place is found or made first; marking the kind replaces the handle in place.
  obtain ⟨formedThen, grown⟩ := slotFor_grows formed value
  have placed := slotFor_place arena value
  simp only [offer]
  cases found : (arena.slotFor value).2.handle? (arena.slotFor value).1 with
  | none => exact ⟨formedThen, grown, _, placed, rfl⟩
  | some handle =>
    refine ⟨setHandle_wellFormed formedThen found (Handle.markClassified_target handle kind),
      grown.trans (setHandle_extends _ _ _), _, ?_, rfl⟩
    rw [place?_setHandle]
    exact placed

/-- Something holds of every handle of an arena. -/
def All (Holds : Handle → Prop) (arena : Arena) : Prop :=
  ∀ slot handle, arena.handle? slot = some handle → Holds handle

section all

variable {Holds : Handle → Prop}

/-- A handle that is added must have what all have. -/
theorem All.push (all : All Holds before) {handle : Handle} (holds : Holds handle)
    (handles : after.handles = before.handles.push handle) : All Holds after := by
  -- The last handle is the added one, and every other was there before.
  intro slot found at_
  simp only [handle?, handles, Array.getElem?_push] at at_
  split at at_
  · cases at_
    exact holds
  · exact all slot found at_

/-- A handle that is put in place of another must have what all have. -/
theorem All.setHandle (all : All Holds arena) {handle : Handle} (holds : Holds handle)
    (slot : Nat) : All Holds (arena.setHandle slot handle) := by
  -- The replaced place holds the new handle, and every other what it held.
  intro place found at_
  rw [handle?_setHandle] at at_
  split at at_
  · obtain ⟨_, _, same⟩ := Option.map_eq_some_iff.mp at_
    rw [← same]
    exact holds
  · exact all place found at_

/-- Finding or making a value's handle adds at most a fresh one. -/
theorem All.slotFor (all : All Holds arena) {value : Value}
    (holds : Holds (.fresh (.value value))) : All Holds (arena.slotFor value).2 := by
  -- Nothing is added for a value that has a handle.
  cases found : arena.slotOf value.id with
  | some slot =>
    simp only [Arena.slotFor, found]
    exact all
  | none => exact all.push holds (slotFor_adds found).handles

/-- Finding or making a frame's handle adds at most a fresh one. -/
theorem All.slotForLocals (all : All Holds arena) {frame : Nat}
    (holds : Holds (.fresh (.locals frame))) : All Holds (arena.slotForLocals frame).2 := by
  -- Nothing is added for a frame that has a handle.
  cases found : arena.byFrame.lookup frame with
  | some slot =>
    simp only [Arena.slotForLocals, found]
    exact all
  | none => exact all.push holds (slotForLocals_adds found).handles

/-- An expandable value is described by at most a fresh handle, which is marked with the kind. -/
theorem All.describe (all : All Holds arena) {value : Value} {classification : Classification}
    (summary : Option String)
    (fresh : classification.isExpandable value = true → Holds (.fresh (.value value)))
    (marked : ∀ handle, Holds handle → Holds (handle.markClassified classification.kind)) :
    All Holds (arena.describe value classification summary).2 := by
  -- A value that cannot be expanded leaves the arena alone.
  simp only [Arena.describe]
  split
  · rename_i expandable
    have offered := all.slotFor (fresh expandable)
    simp only [offer]
    split
    · rename_i handle found
      exact offered.setHandle (marked handle (offered _ handle found)) _
    · exact offered
  · exact all

end all

/-- Describing keeps the look-ups right and every place. -/
theorem describe_grows (formed : arena.WellFormed) (value : Value) (classification : Classification)
    (summary : Option String) :
    (arena.describe value classification summary).2.WellFormed ∧
      Extends arena (arena.describe value classification summary).2 := by
  -- Describing touches the arena only by offering the value.
  simp only [describe]
  split
  · exact ⟨(offer_spec formed value _).1, (offer_spec formed value _).2.1⟩
  · exact ⟨formed, .refl arena⟩

/-- A descriptor's reference is that of the value's place, or empty if nothing can be expanded. -/
theorem describe_reference (formed : arena.WellFormed) (value : Value)
    (classification : Classification) (summary : Option String) :
    if classification.isExpandable value then
      ∃ slot, (arena.describe value classification summary).2.place? (.value value.id) = some slot ∧
        (arena.describe value classification summary).1.reference =
          (arena.describe value classification summary).2.referenceAt slot
    else (arena.describe value classification summary).1.reference = 0 := by
  -- The reference is the offered one, or none was offered.
  simp only [describe]
  split
  · exact (offer_spec formed value _).2.2
  · rfl

/-- A descriptor carries the number of children exactly if it is known from the classification. -/
theorem describe_indexedCount (arena : Arena) (value : Value) (classification : Classification)
    (summary : Option String) (count : Nat) :
    (arena.describe value classification summary).1.indexedCount = some count ↔
      classification.kind = .indexed count := by
  -- The count is read off the kind.
  cases kind : classification.kind <;> simp [describe, kind]

/-- Without a known size the count of members is what the arena tells cheaply. -/
theorem describe_namedCount (arena : Arena) (value : Value) {classification : Classification}
    (summary : Option String) (unsized : ∀ count, classification.kind ≠ .indexed count) :
    (arena.describe value classification summary).1.namedCount =
      (arena.describe value classification summary).2.cheapNamedCount value classification := by
  -- Where there is no size the cheap count is asked for, in the arena that is left.
  cases kind : classification.kind with
  | indexed count => exact absurd kind (unsized count)
  | named | undeclared => simp only [describe, kind]

/-- A descriptor never carries both counts. -/
theorem describe_namedCount_of_indexed (arena : Arena) (value : Value)
    {classification : Classification} (summary : Option String) {count : Nat}
    (indexed : classification.kind = .indexed count) :
    (arena.describe value classification summary).1.namedCount = none := by
  simp [describe, indexed]

end Arena

end Inspection
