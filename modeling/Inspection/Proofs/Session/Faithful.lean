import Inspection.Proofs.Children.Count
import Inspection.Proofs.Formatter.Registry
import Inspection.Proofs.Session.Fitting

/-! Without registered formatters a session shows what is recorded, in any order of requests. -/

namespace Inspection

/-- A descriptor shows a recorded value with no count that is wrong. -/
structure Descriptor.Shows (descriptor : Descriptor) (node : RecordedValue) : Prop where
  name : descriptor.name = node.name
  typeName : descriptor.typeName = node.typeName
  value : descriptor.value = node.summary
  indexed : ∀ count, descriptor.indexedCount = some count ↔
    node.kind = .array ∧ count = node.offspring.length
  named : ∀ count, descriptor.namedCount = some count → count = node.offspring.length
  record : node.kind = .record → descriptor.namedCount = some node.offspring.length
  scalar : node.kind = .scalar → descriptor.namedCount = none

/-- What a handle remembers is recorded. -/
def Handle.Faithful (replay : Replay) (handle : Handle) : Prop :=
  match handle.target with
  | .locals frame => ∃ values, replay.locals frame = .ok values
  | .value value => ∃ node, replay.Has value node ∧ node.isExpandable = true ∧
      handle.Agrees (valuesOf (node.entries value.id)) ∧ handle.Honest

namespace Handle.Faithful

variable {replay : Replay} {handle : Handle}

/-- What is remembered of a value is recorded of it. -/
theorem of_value {value : Value} (faithful : handle.Faithful replay)
    (target : handle.target = .value value) :
    ∃ node, replay.Has value node ∧ node.isExpandable = true ∧
      handle.Agrees (valuesOf (node.entries value.id)) ∧ handle.Honest := by
  -- The target decides what there is to be faithful to.
  simp only [Handle.Faithful, target] at faithful
  exact faithful

/-- A fresh handle of a recorded value remembers nothing that is not recorded. -/
theorem fresh {value : Value} {node : RecordedValue} (has : replay.Has value node)
    (expandable : node.isExpandable = true) : (Handle.fresh (.value value)).Faithful replay :=
  ⟨node, has, expandable, agrees_fresh _ _, honest_fresh _⟩

/-- Recording a kind adds nothing to what is remembered. -/
theorem markClassified (faithful : handle.Faithful replay) (kind : ChildrenKind) :
    (handle.markClassified kind).Faithful replay := by
  -- The target stays, and so does what is remembered.
  simp only [Handle.Faithful, markClassified_target]
  cases target : handle.target with
  | locals frame =>
    simp only [Handle.Faithful, target] at faithful
    exact faithful
  | value value =>
    obtain ⟨node, has, expandable, agrees, honest⟩ := faithful.of_value target
    exact ⟨node, has, expandable, agrees.markClassified kind, honest.markClassified kind⟩

end Handle.Faithful

/-- The kind of a recorded value decides whether it can be expanded. -/
theorem RecordedValue.isExpandable_eq {node : RecordedValue} {value : Value}
    (same : value = node.toValue value.id) :
    Classification.isExpandable ⟨node.childrenKind, .native⟩ value = node.isExpandable := by
  -- The kind of children and the shape are both read off the recorded kind.
  have shape : value.type.shape = node.type.shape := by
    rw [same]
    rfl
  cases kind : node.kind <;>
    simp [Classification.isExpandable, RecordedValue.childrenKind, RecordedValue.isExpandable,
      shape, kind, Provider.isNative, Provider.native, RecordedValue.type,
      TypeShape.mayHaveChildren]

/-- A cheap count is the number of recorded children. -/
theorem Arena.cheapNamedCount_faithful {arena : Arena} {replay : Replay} {value : Value}
    {node : RecordedValue} (formed : arena.WellFormed) (all : arena.All (Handle.Faithful replay))
    (has : replay.Has value node) :
    (∀ count, arena.cheapNamedCount value ⟨node.childrenKind, .native⟩ = some count →
        count = node.offspring.length) ∧
      (node.kind = .record → arena.cheapNamedCount value ⟨node.childrenKind, .native⟩ =
        some node.offspring.length) ∧
      (node.kind = .scalar →
        arena.cheapNamedCount value ⟨node.childrenKind, .native⟩ = none) := by
  -- What a handle of the value tells is the number of what is recorded below it.
  have told : ∀ count, arena.enumeratedCount value.id = some count →
      count = node.offspring.length ∧ node.isExpandable = true := by
    intro count counted
    obtain ⟨slot, handle, found, subject, known⟩ := exists_of_enumeratedCount formed counted
    cases target : handle.target with
    | locals frame =>
      rw [target] at subject
      cases subject
    | value other =>
      rw [target] at subject
      have identity : other.id = value.id := Subject.value.inj subject
      obtain ⟨recorded, also, expandable, agrees, honest⟩ := (all slot handle found).of_value target
      -- One identity has one node.
      have one : recorded = node := by
        have nodes := also.1
        rw [identity, has.1] at nodes
        exact (Except.ok.inj nodes).symm
      subst one
      refine ⟨?_, expandable⟩
      rw [agrees.knownNamedCount_eq honest known, valuesOf, List.length_map,
        RecordedValue.entries, List.length_mapIdx]
  -- The native type tells the count of a record, and of nothing else by name.
  have members : value.type.memberCount? = node.type.memberCount? := by
    rw [has.2]
    rfl
  rw [cheapNamedCount_eq]
  cases known : arena.enumeratedCount value.id with
  | some counted =>
    -- What has been enumerated is told first.
    obtain ⟨same, expandable⟩ := told counted known
    refine ⟨fun count shown => ?_, fun _ => congrArg some same, fun scalar => ?_⟩
    · cases shown
      exact same
    · -- No scalar has a handle.
      simp [RecordedValue.isExpandable, RecordedValue.type, scalar,
        TypeShape.mayHaveChildren] at expandable
  | none =>
    simp only [Provider.isNative, Provider.native, if_true, members, Option.none_or]
    refine ⟨fun count shown => ?_, fun record => ?_, fun scalar => ?_⟩
    · cases kind : node.kind <;>
        simp [TypeInfo.memberCount?, RecordedValue.type, kind] at shown
      simp [RecordedValue.offspring, kind, shown]
    · simp [TypeInfo.memberCount?, RecordedValue.type, RecordedValue.offspring, record]
    · simp [TypeInfo.memberCount?, RecordedValue.type, scalar]

/-- A recorded value is described as it is recorded. -/
theorem Arena.describe_shows {arena : Arena} {replay : Replay} {value : Value}
    {node : RecordedValue}
    (formed : (arena.describe value ⟨node.childrenKind, .native⟩ none).2.WellFormed)
    (all : (arena.describe value ⟨node.childrenKind, .native⟩ none).2.All (Handle.Faithful replay))
    (has : replay.Has value node) :
    (arena.describe value ⟨node.childrenKind, .native⟩ none).1.Shows node := by
  -- Name, type and text are those of the value; the counts need the arena.
  obtain ⟨counted, record, scalar⟩ := cheapNamedCount_faithful formed all has
  have indexed := describe_indexedCount arena value ⟨node.childrenKind, .native⟩ none
  refine ⟨?_, ?_, ?_, fun count => (indexed count).trans ?_, fun count named => ?_, fun kind => ?_,
    fun kind => ?_⟩
  · show value.name = node.name
    rw [has.2]
    rfl
  · show value.type.name = node.typeName
    rw [has.2]
    rfl
  · show value.summary = node.summary
    rw [has.2]
    rfl
  · -- The indexed count is the length of an array.
    cases kind : node.kind <;>
      simp [RecordedValue.childrenKind, RecordedValue.offspring, kind, eq_comm]
  · cases kind : node.kind with
    | array =>
      -- An array is described by its length and by no other count.
      have sized : (⟨node.childrenKind, .native⟩ : Classification).kind =
          .indexed node.children.length := by simp [RecordedValue.childrenKind, kind]
      rw [describe_namedCount_of_indexed _ _ _ sized] at named
      cases named
    | scalar | record | pointer =>
      rw [describe_namedCount _ _ _ (by simp [RecordedValue.childrenKind, kind])] at named
      exact counted count named
  · rw [describe_namedCount _ _ _ (by simp [RecordedValue.childrenKind, kind])]
    exact record kind
  · rw [describe_namedCount _ _ _ (by simp [RecordedValue.childrenKind, kind])]
    exact scalar kind

namespace Session

/-- What a session has learned of its stop is recorded there. -/
structure Faithful (session : Session) : Prop where
  unregistered : session.registry.entries = []
  formed : session.arena.WellFormed
  known : ∀ id classification, session.known.lookup id = some classification →
    ∃ node, session.replay.node id = .ok node ∧ classification = ⟨node.childrenKind, .native⟩
  handles : session.arena.All (Handle.Faithful session.replay)

variable {session : Session} {value : Value} {node : RecordedValue}

/-- A recorded value is classified by its kind. -/
theorem Faithful.classify (faithful : session.Faithful) (has : session.replay.Has value node) :
    (session.classify value).1 = ⟨node.childrenKind, .native⟩ ∧
      (session.classify value).2.Faithful := by
  -- What is known is recorded, and what is new is determined by the recorded type.
  cases known : session.known.lookup value.id with
  | some classification =>
    obtain ⟨recorded, found, same⟩ := faithful.known _ _ known
    rw [has.1] at found
    cases found
    rw [session.classify_of_known value known]
    exact ⟨same, faithful.unregistered, faithful.formed, faithful.known, faithful.handles⟩
  | none =>
    have determined := Classifications.determine_native session.inquiry
      (Registry.resolve_of_unregistered faithful.unregistered _) has.2 session.ledger
    have answer : (session.classify value).1 = ⟨node.childrenKind, .native⟩ := by
      simp only [Session.classify, Classifications.classify, known]
      exact determined
    obtain ⟨_, added, _⟩ := session.classify_of_new value known
    refine ⟨answer, faithful.unregistered, faithful.formed, fun id classification found => ?_,
      faithful.handles⟩
    rw [added, List.lookup_cons] at found
    split at found
    · -- The new entry is that of the value.
      rename_i same
      cases found
      rw [eq_of_beq same]
      exact ⟨node, has.1, answer⟩
    · -- Any other entry was there before.
      exact faithful.known id classification found

/-- A recorded value is shown as it is recorded. -/
theorem Faithful.describe (faithful : session.Faithful) (has : session.replay.Has value node) :
    (session.describe value).1.Shows node ∧ (session.describe value).2.Faithful ∧
      (session.describe value).2.replay = session.replay := by
  -- The classification is by kind, so what is offered is what can be expanded.
  obtain ⟨answer, classified⟩ := faithful.classify has
  have same : (session.classify value).2.arena = session.arena := rfl
  -- The native formatter offers no summary.
  have unsummarised : (session.classify value).2.summary ⟨node.childrenKind, .native⟩ value =
      (none, (session.classify value).2) := rfl
  have formed := (Arena.describe_grows faithful.formed value ⟨node.childrenKind, .native⟩ none).1
  have all : (session.arena.describe value ⟨node.childrenKind, .native⟩ none).2.All
      (Handle.Faithful session.replay) := by
    apply faithful.handles.describe none
    · -- A new handle is made only for a value that can be expanded.
      intro offered
      rw [RecordedValue.isExpandable_eq has.2] at offered
      exact Handle.Faithful.fresh has offered
    · exact fun handle kept => kept.markClassified _
  simp only [Session.describe, answer, unsummarised, same]
  exact ⟨Arena.describe_shows formed all has,
    ⟨classified.unregistered, formed, classified.known, all⟩, rfl⟩

/-- A window on a handle of a recorded value is served with what is recorded in it. -/
theorem Faithful.serve (faithful : session.Faithful) {slot : Nat} {handle : Handle}
    (found : session.arena.handle? slot = some handle) (target : handle.target = .value value)
    (window : Window) :
    ∃ node, session.replay.Has value node ∧
      (session.serve slot value window).1 = (window.shown
        (node.childrenKind.limit? session.options.maxNamed)
        (valuesOf (node.entries value.id))).map .child ∧
      (session.serve slot value window).2.Faithful ∧
      (session.serve slot value window).2.replay = session.replay := by
  -- The handle stands for a recorded value, whose children the native formatter supplies.
  obtain ⟨node, has, expandable, agrees, honest⟩ :=
    (faithful.handles slot handle found).of_value target
  obtain ⟨answer, classified⟩ := faithful.classify has
  have same : (session.classify value).2.arena = session.arena := rfl
  have supplier : childProvider ⟨node.childrenKind, .native⟩ = .native := by
    simp only [childProvider]
    split <;> rfl
  -- A size is the length of an array, whose children are all recorded.
  have counted : ∀ count, node.childrenKind = .indexed count →
      count = (valuesOf (node.entries value.id)).length := by
    intro count sized
    rw [valuesOf, List.length_map, RecordedValue.entries, List.length_mapIdx]
    cases kind : node.kind <;> simp [RecordedValue.childrenKind, kind] at sized
    rw [← sized, RecordedValue.offspring, kind]
  have supplies : Handle.Supplies (session.classify value).2.inquiry .native value
      (valuesOf (node.entries value.id)) := Inquiry.native_supplies has
  obtain ⟨answers, kept, told⟩ := Handle.enumerate_supplied supplies target agrees counted window
    session.options.maxNamed (session.classify value).2.ledger
  have framed := (Handle.enumerate_frame handle node.childrenKind .native window
    session.options.maxNamed (session.classify value).2.inquiry
    (session.classify value).2.ledger).1
  have limits : (session.classify value).2.options = session.options := rfl
  simp only [Session.serve, answer, same, found, supplier, limits]
  refine ⟨node, has, answers, ⟨classified.unregistered, ?_, classified.known, ?_⟩, rfl⟩
  · exact Arena.setHandle_wellFormed faithful.formed found framed
  · -- The handle that is put back remembers what was served.
    apply faithful.handles.setHandle
    simp only [Handle.Faithful, framed, target]
    exact ⟨node, has, expandable, kept, told⟩

/-- A child of a recorded value is recorded. -/
theorem Faithful.follow (faithful : session.Faithful) (has : session.replay.Has value node)
    (key : ChildKey) :
    (∀ child, (session.follow value key).1 = .ok (some child) →
        ∃ below, session.replay.Has child below) ∧
      (session.follow value key).2.Faithful ∧
      (session.follow value key).2.replay = session.replay := by
  -- The child is asked of the native formatter, which reports what is recorded.
  obtain ⟨answer, classified⟩ := faithful.classify has
  have supplier : childProvider ⟨node.childrenKind, .native⟩ = .native := by
    simp only [childProvider]
    split <;> rfl
  simp only [Session.follow, answer, supplier]
  refine ⟨fun child given => ?_, ⟨classified.unregistered, classified.formed, classified.known,
    classified.handles⟩, rfl⟩
  obtain ⟨reported, told, _, among⟩ := Replay.child_eq_ok has key
  rw [Inquiry.child_native, nativeChild] at given
  rw [show (session.classify value).2.inquiry.replay = session.replay from rfl, told] at given
  -- The child is one of the entries below the value.
  obtain ⟨entry, member, same⟩ := List.mem_map.mp (among child (Except.ok.inj given))
  rw [← same]
  exact ⟨entry.2, Replay.has_toValue (Replay.node_of_parent has.1 member)⟩

/-- Nothing has been learned yet after an invalidation. -/
theorem faithful_of_empty (unregistered : session.registry.entries = [])
    (known : session.known = []) (handles : session.arena.handles = #[])
    (formed : session.arena.WellFormed) :
    session.Faithful := by
  -- There is nothing known and no handle to be wrong.
  refine ⟨unregistered, formed, fun id classification found => ?_, fun slot handle found => ?_⟩
  · rw [known] at found
    cases found
  · simp [Arena.handle?, handles] at found

/-- Console lines register no formatter. -/
theorem runConsole_unregistered (unregistered : session.registry.entries = []) (line : String) :
    (session.runConsole line).2.registry.entries = [] := by
  -- No registered formatter passes a test that none can pass, before the line or after it.
  have none : session.registry.All fun _ => False := fun entry member => by
    rw [unregistered] at member
    cases member
  have left := Console.run_all none line session.ledger
  simp only [runConsole]
  exact List.eq_nil_iff_forall_not_mem.mpr left

/-- A step that has what it needs teaches a session only what is recorded. -/
theorem Faithful.perform (faithful : session.Faithful) {step : Step} (fits : session.Fits step) :
    (session.perform step).Faithful := by
  -- Each step keeps what is recorded, given what it needs.
  cases step with
  | classify value =>
    obtain ⟨node, has⟩ := fits
    exact (faithful.classify has).2
  | describe value =>
    obtain ⟨node, has⟩ := fits
    exact (faithful.describe has).2.1
  | serve slot value window =>
    obtain ⟨handle, found, target⟩ := fits
    obtain ⟨node, _, _, served, _⟩ := faithful.serve found target window
    exact served
  | follow value key =>
    obtain ⟨node, has⟩ := fits
    exact (faithful.follow has key).2.1
  | openFrame frame =>
    exact ⟨faithful.unregistered, (openFrame_grows faithful.formed frame).1, faithful.known,
      faithful.handles.slotForLocals fits⟩
  | command line =>
    -- A console line changes formatters and counters, and registers none.
    have unregistered := runConsole_unregistered faithful.unregistered line
    obtain ⟨registry, ledger, left, _⟩ := session.runConsole_frame line
    rw [left] at unregistered
    simp only [Session.perform, left]
    exact ⟨unregistered, faithful.formed, faithful.known, faithful.handles⟩
  | resumed => exact faithful_of_empty faithful.unregistered rfl rfl Arena.wellFormed_of_empty
  | stopped reason =>
    simp only [Session.perform, Session.stopped]
    -- A fresh session keeps what it has, and any other forgets everything.
    split
    · exact ⟨faithful.unregistered, faithful.formed, faithful.known, faithful.handles⟩
    · exact faithful_of_empty faithful.unregistered rfl rfl Arena.wellFormed_of_empty
  | proceed kind =>
    obtain ⟨known, handles⟩ := fits
    simp only [Session.perform, Session.proceed]
    -- The program moves only where nothing is known of the old stop.
    split
    · exact faithful
    · exact faithful_of_empty faithful.unregistered known handles faithful.formed

/-- Faithful sessions stay so, whatever is asked of them about recorded values. -/
theorem faithful_upheld : Upheld Faithful where
  perform faithful fits := faithful.perform fits
  served window faithful found target := by
    obtain ⟨node, has, answer, _⟩ := faithful.serve found target window
    -- All that is served is recorded below the value.
    rw [answer, childrenOf_map_child]
    intro child member
    exact recorded_entries has.1 child (Window.mem_of_mem_shown member)
  followed faithful reports given := by
    obtain ⟨node, has⟩ := reports
    exact (faithful.follow has _).1 _ given

end Session

end Inspection
