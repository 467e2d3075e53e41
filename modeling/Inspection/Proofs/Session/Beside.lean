import Inspection.Proofs.Children.Failure
import Inspection.Proofs.Children.Resemblance
import Inspection.Proofs.Session.Alike
import Inspection.Proofs.Session.Handles

/-! Sessions whose formatters agree but for one child go on side by side. -/

namespace Inspection

variable {id : ValueId} {index : Nat}

namespace Session

/-- Every formatter that a session may call ignores earlier calls. -/
structure Pure (session : Session) : Prop where
  registered : session.registry.Pure
  remembered : ∀ id classification, session.known.lookup id = some classification →
    classification.provider.formatter.Pure

/-- Two sessions in one state, with formatters that agree but for one child of one identity. -/
structure DiffersAt (id : ValueId) (index : Nat) (left right : Session) : Prop where
  same : right = { left with registry := right.registry, known := right.known }
  registry : left.registry.DiffersAt id index right.registry
  known : ∀ other, Option.Rel (Classification.DiffersAt id index) (left.known.lookup other)
    (right.known.lookup other)

/--
Two sessions side by side whose formatters agree but for one child of one identity.

What is known or has been counted may have come apart for some identities.
-/
structure Beside (id : ValueId) (index : Nat) (apart : List ValueId) (left right : Session) :
    Prop where
  inquiry : right.inquiry = left.inquiry
  registry : left.registry.DiffersAt id index right.registry
  known : ∀ other ∉ apart, Option.Rel (Classification.DiffersAt id index)
    (left.known.lookup other) (right.known.lookup other)
  counted : ∀ other ∉ apart,
    right.arena.enumeratedCount other = left.arena.enumeratedCount other
  pure : left.Pure
  formed : left.arena.WellFormed
  otherFormed : right.arena.WellFormed

variable {left right : Session} {apart : List ValueId} {value : Value}

/-- A classification leaves every formatter pure, and was made by a pure one. -/
theorem Pure.classify (pure : left.Pure) (value : Value) :
    (left.classify value).1.provider.formatter.Pure ∧ (left.classify value).2.Pure := by
  -- A classification registers nothing.
  obtain ⟨chosen, remembered⟩ := classify_pure pure.registered pure.remembered value
  exact ⟨chosen, pure.registered, remembered⟩

/-- Sessions side by side classify a value alike, but for the one child. -/
theorem Beside.classify (beside : Beside id index apart left right) (value : Value)
    (shared : value.id ∉ apart) :
    (left.classify value).1.DiffersAt id index (right.classify value).1 ∧
      Beside id index apart (left.classify value).2 (right.classify value).2 := by
  -- Both know the value, or both ask their registries, which differ in the one child at most.
  have first : (left.classify value).1.DiffersAt id index (right.classify value).1 := by
    have related := beside.known value.id shared
    cases found : left.known.lookup value.id with
    | some classification =>
      rw [found] at related
      generalize also : right.known.lookup value.id = other at related
      cases related with
      | some differs =>
        -- Both classifications were known before.
        rw [left.classify_of_known value found, right.classify_of_known value also]
        exact differs
    | none =>
      rw [found] at related
      generalize also : right.known.lookup value.id = other at related
      cases related
      simp only [Session.classify, Classifications.classify, found, also, beside.inquiry]
      exact Classifications.determine_differs beside.registry beside.pure.registered _ _ _ _
  refine ⟨first, beside.inquiry, beside.registry, fun other common => ?_, beside.counted,
    (beside.pure.classify value).2, beside.formed, beside.otherFormed⟩
  -- Only the entry of the value is new.
  by_cases same : other = value.id
  · rw [same, left.classify_lookup value, right.classify_lookup value]
    exact .some first
  · rw [left.classify_known_of_ne same, right.classify_known_of_ne same]
    exact beside.known other common

/-- Sessions side by side get the same summary. -/
theorem Beside.summary (beside : Beside id index apart left right) (value : Value)
    {classification other : Classification}
    (differs : classification.DiffersAt id index other)
    (pure : classification.provider.formatter.Pure) :
    (right.summary other value).1 = (left.summary classification value).1 := by
  -- A native presentation offers none to either.
  simp only [Session.summary, differs.provider.isNative]
  split
  · rfl
  · -- A pure formatter says the same whatever has been counted.
    rw [beside.inquiry]
    exact differs.provider.inquiry_summary pure left.inquiry value left.ledger right.ledger

/-- A place that a description has given lies within an arena that has not outgrown references. -/
theorem place_lt_capacity {session final : Session} (grows : session.Grows final)
    (formed : final.arena.WellFormed) (room : final.arena.size ≤ Arena.capacity)
    {subject : Subject} {slot : Nat} (placed : session.arena.place? subject = some slot) :
    slot < Arena.capacity :=
  Nat.lt_of_lt_of_le (formed.lt_size (grows.arena.places subject slot placed)) room

/-- Sessions side by side stay so in arenas that count alike, whatever calls they have made. -/
theorem Beside.rearranged (beside : Beside id index apart left right) {further : List ValueId}
    (subset : apart ⊆ further) {arena other : Arena} (formed : arena.WellFormed)
    (otherFormed : other.WellFormed)
    (counted : ∀ id ∉ further, other.enumeratedCount id = arena.enumeratedCount id)
    (ledger otherLedger : Ledger) :
    Beside id index further { left with ledger, arena }
      { right with ledger := otherLedger, arena := other } :=
  -- Neither what is known nor the formatters are kept in the arena or the ledger.
  ⟨beside.inquiry, beside.registry,
    fun id common => beside.known id fun known => common (subset known), counted,
    ⟨beside.pure.registered, beside.pure.remembered⟩, formed, otherFormed⟩

/-- A child that only one of two sessions describes sets them apart in that child alone. -/
theorem Beside.describe_left (beside : Beside id index apart left right) (child : Value) :
    Beside id index (child.id :: apart) (left.describe child).2 right := by
  -- The other session does not move, so only what is known of the child can differ.
  have classified : Beside id index (child.id :: apart) (left.classify child).2 right := by
    refine ⟨beside.inquiry, beside.registry, fun other common => ?_, fun other common => ?_,
      (beside.pure.classify child).2, beside.formed, beside.otherFormed⟩
    · rw [left.classify_known_of_ne (List.ne_of_not_mem_cons common)]
      exact beside.known other (List.not_mem_of_not_mem_cons common)
    · exact beside.counted other (List.not_mem_of_not_mem_cons common)
  obtain ⟨_, ledger, same⟩ := left.describe_of_summary child
  rw [same]
  apply classified.rearranged (List.Subset.refl _) (Arena.describe_grows beside.formed child _ _).1
    beside.otherFormed
  -- A description enumerates nothing, of the child or of any other value.
  intro other common
  rw [Arena.enumeratedCount_describe beside.formed]
  exact classified.counted other common

/-- Sessions side by side stay so when both describe a value. -/
theorem Beside.describe (beside : Beside id index apart left right) (shared : value.id ∉ apart) :
    Beside id index apart (left.describe value).2 (right.describe value).2 := by
  -- Both classify the value alike, and a description enumerates nothing.
  obtain ⟨_, classified⟩ := beside.classify value shared
  obtain ⟨_, ledger, same⟩ := left.describe_of_summary value
  obtain ⟨_, otherLedger, otherSame⟩ := right.describe_of_summary value
  rw [same, otherSame]
  apply classified.rearranged (List.Subset.refl _) (Arena.describe_grows beside.formed value _ _).1
    (Arena.describe_grows beside.otherFormed value _ _).1
  intro other common
  rw [Arena.enumeratedCount_describe beside.formed,
    Arena.enumeratedCount_describe beside.otherFormed]
  exact beside.counted other common

/-- Sessions side by side show a value alike where both arenas have room for it. -/
theorem Beside.resembles (beside : Beside id index apart left right) (shared : value.id ∉ apart)
    (room : ∀ slot, (left.describe value).2.arena.place? (.value value.id) = some slot →
      slot < Arena.capacity)
    (otherRoom : ∀ slot, (right.describe value).2.arena.place? (.value value.id) = some slot →
      slot < Arena.capacity) :
    (left.describe value).1.Resembles (right.describe value).1 := by
  -- The same classification and the same summary come before the arena is looked at.
  obtain ⟨differs, classified⟩ := beside.classify value shared
  have summaries : right.offeredSummary value = left.offeredSummary value :=
    classified.summary value differs (beside.pure.classify value).1
  obtain ⟨shown, ledger, same⟩ := left.describe_of_summary value
  obtain ⟨otherShown, otherLedger, otherSame⟩ := right.describe_of_summary value
  rw [same] at room
  rw [otherSame, summaries] at otherRoom
  rw [shown, otherShown, summaries]
  exact Arena.describe_resembles beside.formed beside.otherFormed differs
    (beside.counted value.id shared) room otherRoom

/-- What the supplier of a value's children would answer now. -/
def answersFor (session : Session) (value : Value) : ChildAnswers := fun position =>
  (session.inquiry.child (childProvider (session.classify value).1) value (.position position)
    session.ledger).1

/-- The suppliers of children differ in the one child at most. -/
theorem childProvider_differs {classification other : Classification}
    (differs : classification.DiffersAt id index other) :
    (childProvider classification).DiffersAt id index (childProvider other) := by
  -- Where no children are declared the native formatter supplies them to both.
  simp only [childProvider, differs.kind]
  split
  · exact ⟨rfl, .refl _⟩
  · exact differs.provider
  · exact differs.provider

/-- Where one of two sessions misses a child, it is supplied with all others. -/
theorem Beside.failsAt (beside : Beside value.id index apart left right)
    (shared : value.id ∉ apart) {child : Value} {error : FormatterError}
    (given : left.answersFor value index = .ok (some child))
    (lost : right.answersFor value index = .error error) :
    (left.answersFor value).FailsAt index child error (right.answersFor value) := by
  -- The two suppliers are pure and agree in every other position.
  refine ⟨given, lost, fun position other => ?_⟩
  have pure := childProvider_pure (beside.pure.classify value).1
  simp only [answersFor, beside.inquiry]
  apply (childProvider_differs (beside.classify value shared).1).inquiry_child pure
  -- The one child is in another position.
  rintro ⟨_, same⟩
  exact other (ChildKey.position.inj same)

section serve

variable {session : Session} {slot : Nat} {handle : Handle}

/-- Where no child is remembered, a window shows what the supplier answers now. -/
theorem serve_listed (pure : session.Pure) (found : session.arena.handle? slot = some handle)
    (target : handle.target = .value value) (unfetched : ∀ position, handle.child? position = none)
    (window : Window) :
    (session.serve slot value window).1 =
      (handle.listed (session.answersFor value) (session.classify value).1.kind window
        session.options.maxNamed).map
          ((session.answersFor value).outcome (session.classify value).1.kind) := by
  -- A pure supplier answers at all times as it does now, and nothing is remembered.
  rw [serve_of_handle found]
  have supplied := childProvider_pure (pure.classify value).1
  apply Handle.enumerate_listed target
  · intro position child remembered
    rw [unfetched position] at remembered
    cases remembered
  · exact fun position ledger => session.inquiry.child_unaffected value ledger session.ledger
      supplied (.position position)

/-- A handle that is put back tells no count but that of the value that it stands for. -/
theorem enumeratedCount_of_served (formed : session.arena.WellFormed)
    (found : session.arena.handle? slot = some handle) (target : handle.target = .value value)
    (served : Handle) {other : ValueId} (different : other ≠ value.id) :
    (session.arena.setHandle slot served).enumeratedCount other =
      session.arena.enumeratedCount other := by
  -- The handle in the place stands for the value, and another identity has its handle elsewhere.
  apply Arena.enumeratedCount_setHandle_of_subject formed found
  rw [target]
  exact fun subject => different (Subject.value.inj subject).symm

end serve

/-- Sessions side by side stay so when both serve a window, but for what they count of the value. -/
theorem Beside.serve (beside : Beside id index [] left right) {slot : Nat}
    {handle other : Handle} (found : left.arena.handle? slot = some handle)
    (otherFound : right.arena.handle? slot = some other) (target : handle.target = .value value)
    (otherTarget : other.target = .value value) (window : Window) :
    Beside id index [value.id] (left.serve slot value window).2
      (right.serve slot value window).2 := by
  -- Both classify the value alike, and then each puts back the handle that it has served from.
  obtain ⟨_, classified⟩ := beside.classify value List.not_mem_nil
  have formed := (serve_grows beside.formed slot value window).1
  have otherFormed := (serve_grows beside.otherFormed slot value window).1
  rw [serve_of_handle found] at formed ⊢
  rw [serve_of_handle otherFound] at otherFormed ⊢
  apply classified.rearranged (List.nil_subset _) formed otherFormed
  -- Putting back a handle shows in no count but that of its own value.
  intro id common
  have different := List.ne_of_not_mem_cons common
  rw [enumeratedCount_of_served beside.formed found target _ different,
    enumeratedCount_of_served beside.otherFormed otherFound otherTarget _ different]
  exact beside.counted id List.not_mem_nil

end Session

end Inspection
