import Inspection.Proofs.Children.Count
import Inspection.Proofs.Session.Attested
import Inspection.Proofs.Session.Listing

/-! A count of named children that is shown is the number of children that can be had. -/

namespace Inspection

/-- Without a size a window without a count is limited. -/
theorem ChildrenKind.limit?_of_unsized {kind : ChildrenKind}
    (unsized : ∀ count, kind ≠ .indexed count) (maxNamed : Nat) :
    kind.limit? maxNamed = some maxNamed := by
  -- Only an announced size goes without a limit.
  cases kind with
  | indexed count => exact absurd rfl (unsized count)
  | named | undeclared => rfl

/-- A window from the start that reaches to the end of a list shows all of it. -/
theorem Window.shown_whole {α : Type} {elements : List α} {limit : Option Nat} {maxNamed : Nat}
    (reaches : elements.length ≤ addPosition 0 (limit.getD maxNamed)) :
    (⟨0, limit⟩ : Window).shown (some maxNamed) elements = elements := by
  -- From the start the window drops nothing, and what it takes reaches to the end.
  cases limit with
  | none => exact List.take_of_length_le reaches
  | some count => exact List.take_of_length_le reaches

/-- Without a registered formatter the native one supplies the children as well. -/
theorem Session.childProvider_native (kind : ChildrenKind) :
    childProvider ⟨kind, .native⟩ = .native := by
  -- Whatever the kind, the children of the native formatter are its own.
  cases kind <;> rfl

/-- A count that the type tells is the number of recorded children. -/
theorem RecordedValue.memberCount?_eq {node : RecordedValue} {count : Nat}
    (told : node.type.memberCount? = some count) : count = node.offspring.length := by
  -- A type tells the names of its members, which a record alone has, one for each child.
  cases kind : node.kind <;> simp [TypeInfo.memberCount?, type, kind] at told
  rw [← told, offspring, kind]

namespace Session

/-- A value that has been shown is a reported one, and a count that was shown for it is right. -/
def Counted (session : Session) (value : Value) (shown : Descriptor) : Prop :=
  session.replay.Reports value ∧ ∀ count, shown.namedCount = some count →
    ∃ classification, session.known.lookup value.id = some classification ∧
      (session.answersOf value classification).Exactly count

variable {Holds : Formatter → Prop} {session : Session} {value : Value}

/-- Of a recorded value the native formatter has exactly the recorded children. -/
theorem exactly_native {node : RecordedValue} (has : session.replay.Has value node)
    (kind : ChildrenKind) :
    (session.answersOf value ⟨kind, .native⟩).Exactly node.offspring.length := by
  -- The native formatter answers with the recorded children, one for each position.
  have length : (valuesOf (node.entries value.id)).length = node.offspring.length := by
    rw [valuesOf, List.length_map, RecordedValue.entries, List.length_mapIdx]
  have recorded : ∀ index, session.answersOf value ⟨kind, .native⟩ index =
      .ok (valuesOf (node.entries value.id))[index]? := by
    intro index
    rw [answersOf, childProvider_native]
    exact Inquiry.native_supplies has index .empty
  constructor
  · intro index below
    rw [recorded, List.getElem?_eq_getElem (length.symm ▸ below)]
    exact ⟨_, rfl⟩
  · -- At the number of children the list has come to its end.
    rw [recorded, List.getElem?_eq_none (Nat.le_of_eq length)]

/-- A count that a handle has learned is right. -/
theorem Attested.exactly_of_enumerated (attested : session.Attested Holds)
    (reports : session.replay.Reports value) {count : Nat}
    (enumerated : session.arena.enumeratedCount value.id = some count) :
    ∃ classification, session.known.lookup value.id = some classification ∧
      (session.answersOf value classification).Exactly count := by
  -- The count stands in the handle of the value, and what handles have learned can be relied on.
  obtain ⟨slot, handle, found, subject, counted⟩ :=
    Arena.exists_of_enumeratedCount attested.formed enumerated
  cases target : handle.target with
  | locals frame =>
    rw [target] at subject
    cases subject
  | value other =>
    rw [target] at subject
    obtain ⟨also, classification, known, trusted⟩ :=
      attested.handles slot handle found other target
    -- A reported value is determined by its identity.
    obtain rfl := reports.eq_of_id also (Subject.value.inj subject)
    exact ⟨classification, known, trusted.exactly counted⟩

/-- A count that the type tells is right where the native formatter is in charge. -/
theorem Attested.exactly_of_declared (attested : session.Attested Holds)
    (reports : session.replay.Reports value) {classification : Classification}
    (known : session.known.lookup value.id = some classification)
    (native : classification.provider.isNative = true) {count : Nat}
    (declared : value.type.memberCount? = some count) :
    (session.answersOf value classification).Exactly count := by
  -- The type is the recorded one, since a reported value carries what is recorded of it.
  obtain ⟨node, has⟩ := reports
  rw [(attested.dueTo ⟨node, has⟩ known).eq_native has.2 native]
  have told : node.type.memberCount? = some count := by
    rw [has.2] at declared
    exact declared
  rw [RecordedValue.memberCount?_eq told]
  exact exactly_native has node.childrenKind

/-- A count that a session shows is the number of children that can be had. -/
theorem Attested.counted (attested : session.Attested Holds)
    (reports : session.replay.Reports value) :
    (session.describe value).2.Counted value (session.describe value).1 := by
  have described := attested.describe reports
  obtain ⟨shown, ledger, left⟩ := session.describe_of_summary value
  have reportsThen : (session.describe value).2.replay.Reports value := by
    rw [left]
    exact reports
  refine ⟨reportsThen, fun count told => ?_⟩
  have known : (session.describe value).2.known.lookup value.id =
      some (session.classify value).1 := by
    rw [left]
    exact session.classify_lookup value
  rw [shown] at told
  -- An announced size is shown in its own place, and no other count beside it.
  have unsized : ∀ size, (session.classify value).1.kind ≠ .indexed size := by
    intro size sized
    rw [Arena.describe_namedCount_of_indexed _ _ _ sized] at told
    cases told
  have arena : (session.describe value).2.arena = (session.arena.describe value
      (session.classify value).1 (session.offeredSummary value)).2 := by rw [left]
  rw [Arena.describe_namedCount _ _ _ unsized, ← arena, Arena.cheapNamedCount_eq] at told
  -- A count was learned by enumerating, or else it is told by the type.
  rcases Option.or_eq_some_iff.mp told with enumerated | ⟨_, declared⟩
  · exact described.exactly_of_enumerated reportsThen enumerated
  · split at declared
    · next native =>
      exact ⟨_, known, described.exactly_of_declared reportsThen known native declared⟩
    · cases declared

/-- Whatever sessions with steady formatters show is counted right until the stop ends. -/
theorem attested_assures (Holds : Formatter → Prop) :
    Assures (Attested Holds) Counted where
  upheld := attested_upheld Holds
  described attested reports := attested.counted reports
  kept {before after value shown} grows unmoved counted := by
    -- The program stands where it stood, and what is known of the value stays known.
    obtain ⟨reports, exactly⟩ := counted
    have same : after.replay = before.replay := congrArg Inquiry.replay unmoved
    refine ⟨same ▸ reports, fun count told => ?_⟩
    obtain ⟨classification, known, found⟩ := exactly count told
    refine ⟨classification, grows.known _ _ known, ?_⟩
    rw [answersOf, unmoved]
    exact found

end Session

namespace Visit

variable {visit : Visit}

/-- Values that are described one after the other are on the record in this order. -/
theorem describeAll_recorded (visit : Visit) (values : List Value) :
    List.Forall₂ (fun value shown =>
        .value value shown ∈ (visit.performAll (values.map .describe)).grants)
      values (visit.session.describeAll values).1 := by
  -- The induction is on the values, from the visit that the first description leaves.
  induction values generalizing visit with
  | nil => exact .nil
  | cons value rest ih =>
    refine .cons (grants_subset_describes _ rest (visit.describe_granted value)) ?_
    have later := ih (visit.perform (.describe value))
    rw [perform_session] at later
    exact later

/-- A window lists just these children, none of which has failed. -/
def ListsChildren (visit : Visit) (reference : Int64) (window : Window) (children : List Value) :
    Prop :=
  (visit.session.listVariables reference window).1.diagnostic = none ∧
    List.Forall₂ (fun child shown =>
        .value child shown ∈ (visit.ask (.listVariables reference window)).grants)
      children (visit.session.listVariables reference window).1.descriptors

/-- A window that is served with children alone lists them. -/
theorem listsChildren_of_serve {reference : Int64} {slot : Nat} {value : Value} {window : Window}
    {children : List Value}
    (leads : visit.session.target? reference = some (slot, .value value))
    (served : (visit.session.serve slot value window).1 = children.map .child) :
    visit.ListsChildren reference window children := by
  -- The children are described in the visit that serving them leaves.
  have recorded := (visit.perform (.serve slot value window)).describeAll_recorded children
  rw [perform_session] at recorded
  simp only [ListsChildren, Visit.ask, Session.steps, Session.listingSteps, leads,
    Session.listVariables_of_target leads, Session.expand, served, Session.failureNote_children,
    Session.present_children, Session.childrenOf_map_child]
  exact ⟨trivial, recorded⟩

/-- A window that reaches to the end of the children of a value without a size lists them all. -/
theorem listsChildren_whole {Holds : Formatter → Prop} {value : Value} {shown : Descriptor}
    {classification : Classification} {children : List Value}
    (attested : visit.session.Attested Holds) (reports : visit.session.replay.Reports value)
    (granted : (Grant.value value shown).Holds visit.session)
    (known : visit.session.known.lookup value.id = some classification)
    (unsized : ∀ size, classification.kind ≠ .indexed size)
    (answers : visit.session.answersOf value classification = .ofList children)
    (nonzero : shown.reference ≠ 0) {limit : Option Nat}
    (reaches : children.length ≤ addPosition 0 (limit.getD visit.session.options.maxNamed)) :
    visit.ListsChildren shown.reference ⟨0, limit⟩ children := by
  -- The reference leads to the value, and the window drops none of its children.
  obtain ⟨slot, handle, leads, found, target⟩ := attested.leads reports granted nonzero
  apply listsChildren_of_serve leads
  rw [attested.serve_uncached found target, visit.session.classify_of_known value known, answers,
    ChildAnswers.uncached_ofList fun size sized => absurd sized (unsized size),
    ChildrenKind.limit?_of_unsized unsized, Window.shown_whole reaches]

/--
A count of named children never lies, whatever formatters and windows it was learned from.

The visit follows the session through the requests.
Whatever descriptor shows such a count is on the record of the stop, beside the value it shows.
Whoever supplies the children of that value gives one in every position below the count, at any
time, and none in any other. A window from the start that reaches as far lists just these.
-/
theorem namedCount_exact (replay : Replay) {registry : Registry}
    (steady : registry.All (Formatter.Steady replay.stops)) (options : SessionOptions)
    {requests : List (Session.Request Int64)}
    (attended : (Session.start replay registry options).Attended requests) :
    let visit := (start replay registry options).askAll requests
    visit.session = (Session.start replay registry options).after requests ∧
      (∀ request, ∀ shown ∈ (visit.session.respond request).1.descriptors, ∀ count,
        shown.namedCount = some count → ∃ value, .value value shown ∈ (visit.ask request).grants) ∧
      ∀ value shown count, .value value shown ∈ visit.grants → shown.namedCount = some count →
        ∃ children : List Value, children.length = count ∧
          (∀ index ledger, (visit.session.inquiry.child
            (Session.childProvider (visit.session.classify value).1) value (.position index)
              ledger).1 = .ok children[index]?) ∧
          (shown.reference ≠ 0 → ∀ limit : Option Nat,
            count ≤ addPosition 0 (limit.getD options.maxNamed) →
              visit.ListsChildren shown.reference ⟨0, limit⟩ children) := by
  intro visit
  -- What a session shows is counted right from the start on and through every request.
  have begun : (Session.start replay registry options).Attested (Formatter.Steady replay.stops) :=
    Session.start_attested (fun _ holds => holds) steady options
  have upholds : visit.Upholds (Session.Attested (Formatter.Steady replay.stops)) Session.Counted :=
    (Upholds.start begun).askAll (Session.attested_assures _) attended
  have same : visit.session = (Session.start replay registry options).after requests :=
    (start replay registry options).askAll_session requests
  have limits : visit.session.options = options := by
    rw [same]
    exact ((Session.start replay registry options).after_program requests).2
  refine ⟨same, fun request shown member count told => ?_, fun value shown count given told => ?_⟩
  · rcases (visit.ask_granted request).1 shown member with ⟨index, error, standIn⟩ | granted
    · -- A stand-in shows no count.
      rw [standIn] at told
      cases told
    · exact granted
  · -- Behind the end of a steady provider there is nothing, so its children form a list.
    obtain ⟨reports, exactly⟩ := upholds.shown value shown given
    obtain ⟨classification, known, exactly⟩ := exactly count told
    have classified := visit.session.classify_of_known value known
    have supplier : (Session.childProvider classification).formatter.Steady
        visit.session.inquiry.replay.stops :=
      upholds.session.supplier (upholds.session.dueTo reports known)
    obtain ⟨children, length, answers⟩ := exactly.eq_ofList (Inquiry.endForGood_steady supplier)
    refine ⟨children, length, fun index ledger => ?_, fun nonzero limit reaches => ?_⟩
    · rw [classified, Inquiry.answers_steady supplier index ledger]
      exact congrFun answers index
    · -- A value with an announced size shows no count of names.
      have unsized : ∀ size, classification.kind ≠ .indexed size := by
        intro size sized
        obtain ⟨ruled, also, _, named, _⟩ := upholds.sound.holds _ given
        rw [known] at also
        cases also
        rw [named size sized] at told
        cases told
      refine listsChildren_whole upholds.session reports (upholds.sound.holds _ given) known unsized
        answers nonzero ?_
      rw [limits, length]
      exact reaches

/-- A formatter that shows one of two members is asked far behind the end and then for all. -/
theorem namedCount_exact_of_cut :
    let pair : RecordedValue := ⟨"p", "Pair", "\x7b..\x7d", .record,
      [⟨"first", "int", "1", .scalar, []⟩, ⟨"second", "int", "2", .scalar, []⟩]⟩
    let stops : List RecordedStop := [⟨.breakpoint, [⟨"main", [pair]⟩]⟩]
    let cut : Declaration := ⟨"cut", "Pair", false, false, true, some 1, none⟩
    let registry : Registry := ⟨[⟨"cut", .exact "Pair", cut.formatter⟩]⟩
    let requests : List (Session.Request Int64) := [.scopes 0, .listVariables 0x100001 .all,
      .listVariables 0x100002 ⟨5, some 1⟩, .listVariables 0x100002 .all,
      .listVariables 0x100001 .all]
    let visit := (start ⟨stops, 0⟩ registry ⟨.unbounded, 100⟩).askAll requests
    registry.All (Formatter.Steady stops) ∧
      (Session.start ⟨stops, 0⟩ registry ⟨.unbounded, 100⟩).Attended requests ∧
      .value (pair.toValue (.slot 0 0)) ⟨"p", "\x7b..\x7d", "Pair", 0x100002, none, some 1⟩ ∈
        visit.grants ∧
      ∃ children : List Value, children.length = 1 ∧
        visit.ListsChildren 0x100002 ⟨0, some 7⟩ children := by
  intro pair stops cut registry requests visit
  have steady : registry.All (Formatter.Steady stops) := by
    intro entry member
    rw [List.mem_singleton.mp member]
    exact Formatter.IsDeclared.steady ⟨cut, rfl⟩ stops
  -- The requests are all plain, so each of them is about what the session has shown.
  have attended : (Session.start ⟨stops, 0⟩ registry ⟨.unbounded, 100⟩).Attended requests := by
    apply Session.attended_of_plain
    simp [requests, Session.Request.Plain]
  have given : .value (pair.toValue (.slot 0 0))
      ⟨"p", "\x7b..\x7d", "Pair", 0x100002, none, some 1⟩ ∈ visit.grants := by decide +kernel
  obtain ⟨children, length, _, lists⟩ :=
    (namedCount_exact ⟨stops, 0⟩ steady ⟨.unbounded, 100⟩ attended).2.2 _ _ 1 given rfl
  exact ⟨steady, attended, given, children, length, lists (by decide) (some 7) (by decide)⟩

end Visit

end Inspection
