import Inspection.Formatter.Native
import Inspection.Formatter.Registry
import Inspection.Formatter.Invocation
import Inspection.Classification
import Inspection.Proofs.Children.Supply

/-! The native formatter shows of a recorded value what is recorded of it. -/

namespace Inspection

namespace RecordedValue

/-- What is recorded below a value of the given identity, with identities of its own. -/
def entries (node : RecordedValue) (id : ValueId) : List (ValueId × RecordedValue) :=
  node.offspring.mapIdx fun index child => (.child (.position index) id, child)

/-- How the children of a recorded value are reached without a registered formatter. -/
def childrenKind (node : RecordedValue) : ChildrenKind :=
  match node.kind with
  | .scalar => .undeclared
  | .record | .pointer => .named
  | .array => .indexed node.children.length

/-- Whether a recorded value can be expanded. -/
def isExpandable (node : RecordedValue) : Bool := node.type.shape.mayHaveChildren

/-- A pointer can always be expanded, and any other value if something is recorded below it. -/
theorem isExpandable_iff {node : RecordedValue} :
    node.isExpandable = true ↔ node.kind = .pointer ∨ node.offspring ≠ [] := by
  -- The shape is read off the kind, and so is what can be reached.
  cases kind : node.kind with
  | scalar | pointer | record =>
    simp [isExpandable, type, offspring, kind, TypeShape.mayHaveChildren]
  | array =>
    simp [isExpandable, type, offspring, kind, TypeShape.mayHaveChildren, List.length_pos_iff]

end RecordedValue

/-- What is recorded in a frame of the given number, with identities. -/
def RecordedFrame.entries (recorded : RecordedFrame) (frame : Nat) :
    List (ValueId × RecordedValue) :=
  recorded.locals.mapIdx fun place node => (.slot frame place, node)

/-- Recorded values as values of their identities. -/
def valuesOf (entries : List (ValueId × RecordedValue)) : List Value :=
  entries.map fun entry => entry.2.toValue entry.1

namespace Replay

variable {replay : Replay} {value : Value} {node : RecordedValue} {id : ValueId}

/-- A value is the recorded one of its identity. -/
def Has (replay : Replay) (value : Value) (node : RecordedValue) : Prop :=
  replay.node value.id = .ok node ∧ value = node.toValue value.id

/-- A value is one that the stopped program itself reports. -/
def Reports (replay : Replay) (value : Value) : Prop := ∃ node, replay.Has value node

/-- Of one identity only one value is reported. -/
theorem Reports.eq_of_id {other : Value} (reports : replay.Reports value)
    (also : replay.Reports other) (same : other.id = value.id) : other = value := by
  -- Both are built from the node that is recorded under the identity.
  obtain ⟨node, found, built⟩ := reports
  obtain ⟨again, refound, rebuilt⟩ := also
  rw [same, found] at refound
  cases refound
  rw [rebuilt, built, same]

/-- A node is found exactly below a current stop. -/
theorem node_eq_ok : replay.node id = .ok node ↔
    ∃ stop, replay.stops[replay.cursor]? = some stop ∧ stop.find? id = some node := by
  -- Without a current stop there is nothing to find.
  simp only [Replay.node, current]
  cases replay.stops[replay.cursor]? with
  | none => exact ⟨nofun, nofun⟩
  | some stop =>
    cases found : stop.find? id with
    | none =>
      -- Nothing is recorded under the identity.
      refine ⟨fun impossible => ?_, ?_⟩
      · simp only [bind, Except.bind, found] at impossible
        cases impossible
      · rintro ⟨other, same, also⟩
        cases same
        rw [found] at also
        cases also
    | some recorded =>
      constructor
      · -- What is recorded there is the node, either way.
        intro answered
        simp only [bind, Except.bind, found] at answered
        cases answered
        exact ⟨stop, rfl, found⟩
      · rintro ⟨other, same, also⟩
        cases same
        rw [found] at also
        cases also
        simp only [bind, Except.bind, found]
        rfl

/-- What is recorded below a recorded value is recorded at the identities below it. -/
theorem node_of_parent (found : replay.node id = .ok node) {entry : ValueId × RecordedValue}
    (member : entry ∈ node.entries id) : replay.node entry.1 = .ok entry.2 := by
  -- The entries below a value are numbered by their positions.
  obtain ⟨stop, current, at_⟩ := node_eq_ok.mp found
  obtain ⟨index, inside, same⟩ := List.mem_mapIdx.mp member
  rw [← same]
  refine node_eq_ok.mpr ⟨stop, current, ?_⟩
  -- A child is found by its position below its parent.
  simp only [RecordedStop.find?, at_, Option.bind_eq_bind, Option.bind_some]
  exact List.getElem?_eq_getElem inside

/-- The locals of a frame are those that are recorded in it. -/
theorem locals_eq_ok {frame : Nat} {values : List Value}
    (found : replay.locals frame = .ok values) :
    ∃ stop recorded, replay.stops[replay.cursor]? = some stop ∧
      stop.frames[frame]? = some recorded ∧ values = valuesOf (recorded.entries frame) := by
  -- There must be a current stop, and a frame of that number in it.
  simp only [locals, current] at found
  cases at_ : replay.stops[replay.cursor]? with
  | none =>
    rw [at_] at found
    cases found
  | some stop =>
    rw [at_] at found
    cases held : stop.frames[frame]? with
    | none =>
      simp only [bind, Except.bind, RecordedStop.locals?, held, Option.map_none] at found
      cases found
    | some recorded =>
      simp only [bind, Except.bind, RecordedStop.locals?, held, Option.map_some] at found
      cases found
      -- The values of the frame are its entries, place by place.
      refine ⟨stop, recorded, rfl, held, ?_⟩
      simp only [valuesOf, RecordedFrame.entries]
      apply List.ext_getElem? fun place => ?_
      simp only [List.getElem?_map, List.getElem?_mapIdx, Option.map_map]
      rfl

/-- The locals of a frame are recorded at the identities of its places. -/
theorem node_of_frame {stop : RecordedStop} {recorded : RecordedFrame} {frame : Nat}
    (current : replay.stops[replay.cursor]? = some stop)
    (held : stop.frames[frame]? = some recorded) {entry : ValueId × RecordedValue}
    (member : entry ∈ recorded.entries frame) : replay.node entry.1 = .ok entry.2 := by
  -- The locals of a frame are numbered by their places.
  obtain ⟨place, inside, same⟩ := List.mem_mapIdx.mp member
  rw [← same]
  -- A local is found by its frame and its place.
  refine node_eq_ok.mpr ⟨stop, current, ?_⟩
  simp only [RecordedStop.find?, held, Option.bind_eq_bind, Option.bind_some]
  exact List.getElem?_eq_getElem inside

/-- A recorded entry as a value is the recorded one of its identity. -/
theorem has_toValue {entry : ValueId × RecordedValue} (found : replay.node entry.1 = .ok entry.2) :
    replay.Has (entry.2.toValue entry.1) entry.2 := ⟨found, rfl⟩

/-- A child of a recorded value, asked for in any way, is one of those recorded below it. -/
theorem child_eq_ok (has : replay.Has value node) (key : ChildKey) :
    ∃ answer, replay.child value key = .ok answer ∧
      (∀ index, key = .position index → answer = (valuesOf (node.entries value.id))[index]?) ∧
      ∀ child, answer = some child → child ∈ valuesOf (node.entries value.id) := by
  -- Asked by position or by name, the answer is what stands at some position.
  have positions : ∀ index : Nat, (node.offspring[index]?.bind fun child =>
      pure (child.toValue (.child (.position index) value.id))) =
        (valuesOf (node.entries value.id))[index]? := by
    intro index
    simp only [valuesOf, RecordedValue.entries, List.getElem?_map, List.getElem?_mapIdx,
      Option.map_map]
    cases node.offspring[index]? <;> rfl
  simp only [Replay.child, has.1, bind, Except.bind, positions]
  cases key with
  | position index =>
    -- The position is looked up as it is.
    refine ⟨_, rfl, fun other key => ?_, fun child answered => ?_⟩
    · cases key
      rfl
    · exact List.mem_of_getElem? answered
  | member name =>
    refine ⟨_, rfl, nofun, fun child answered => ?_⟩
    -- A member is found by its position.
    obtain ⟨index, _, answered⟩ := Option.bind_eq_some_iff.mp answered
    exact List.mem_of_getElem? answered

/-- Whatever child the stopped program answers with, it reports. -/
theorem reports_of_child {child : Value} {key : ChildKey}
    (given : replay.child value key = .ok (some child)) : replay.Reports child := by
  cases found : replay.node value.id with
  | error error =>
    simp only [Replay.child, found, bind, Except.bind] at given
    cases given
  | ok node =>
    -- Only the identity of a value is looked at, so the recorded one has the same children.
    have has : replay.Has (node.toValue value.id) node := ⟨found, rfl⟩
    obtain ⟨answer, told, _, among⟩ := child_eq_ok has key
    have same : answer = some child := Except.ok.inj (told.symm.trans given)
    obtain ⟨entry, member, rfl⟩ := List.mem_map.mp (among child same)
    exact ⟨entry.2, has_toValue (node_of_parent found member)⟩

/-- The child in a position is what is recorded there. -/
theorem child_position (has : replay.Has value node) (index : Nat) :
    replay.child value (.position index) = .ok (valuesOf (node.entries value.id))[index]? := by
  -- Asked for by position, the answer is told.
  obtain ⟨answer, told, positioned, _⟩ := child_eq_ok has (.position index)
  rw [told, positioned index rfl]

/-- A child that is reported in a position is recorded there, and its identity says so. -/
theorem child_recorded (has : replay.Has value node) {index : Nat} {child : Value}
    (given : replay.child value (.position index) = .ok (some child)) :
    index < node.offspring.length ∧ child.id = .child (.position index) value.id := by
  -- The answer is the entry in that position, which carries the identity of the child.
  rw [child_position has] at given
  have here := Except.ok.inj given
  simp only [valuesOf, RecordedValue.entries, List.getElem?_map, List.getElem?_mapIdx,
    Option.map_eq_some_iff] at here
  obtain ⟨_, ⟨below, recorded, rfl⟩, rfl⟩ := here
  exact ⟨(List.getElem?_eq_some_iff.mp recorded).1, rfl⟩

/-- A member is the child in some position, and has the name that was asked for. -/
theorem child_of_member {name : String} {child : Value}
    (given : replay.child value (.member name) = .ok (some child)) :
    child.name = name ∧ ∃ index, replay.child value (.position index) = .ok (some child) := by
  simp only [Replay.child] at given ⊢
  cases found : replay.node value.id with
  | error error =>
    rw [found] at given
    cases given
  | ok node =>
    rw [found] at given
    -- The first offspring of that name is the one that is given.
    obtain ⟨index, named, given⟩ := Option.bind_eq_some_iff.mp (Except.ok.inj given)
    obtain ⟨below, recorded, built⟩ := Option.bind_eq_some_iff.mp given
    obtain ⟨inside, same, _⟩ := List.findIdx?_eq_some_iff_getElem.mp named
    obtain ⟨_, here⟩ := List.getElem?_eq_some_iff.mp recorded
    cases built
    refine ⟨?_, index, congrArg Except.ok given⟩
    rw [← here]
    exact eq_of_beq same

/-- No value is a child of its own. -/
theorem child_id_ne (reports : replay.Reports value) {key : ChildKey} {child : Value}
    (given : replay.child value key = .ok (some child)) : child.id ≠ value.id := by
  obtain ⟨node, has⟩ := reports
  -- Asked for in any way, a child has a position below the value.
  obtain ⟨index, positioned⟩ :
      ∃ index, replay.child value (.position index) = .ok (some child) := by
    cases key with
    | position index => exact ⟨index, given⟩
    | member name => exact (child_of_member given).2
  rw [(child_recorded has positioned).2]
  -- An identity is not a part of itself.
  intro same
  have larger := congrArg sizeOf same
  simp only [ValueId.child.sizeOf_spec] at larger
  omega

/-- Behind a position without a child there is none either. -/
theorem child_ended {first later : Nat} (within : first ≤ later)
    (nothing : replay.child value (.position first) = .ok none) :
    replay.child value (.position later) = .ok none := by
  cases found : replay.node value.id with
  | error error =>
    simp only [Replay.child, found, bind, Except.bind] at nothing
    cases nothing
  | ok node =>
    have has : replay.Has (node.toValue value.id) node := ⟨found, rfl⟩
    have recorded : ∀ index, replay.child value (.position index) =
        .ok (valuesOf (node.entries value.id))[index]? := fun index => child_position has index
    rw [recorded] at nothing ⊢
    -- The first position lies past all that is recorded, so the later one does.
    have past := List.getElem?_eq_none_iff.mp (Except.ok.inj nothing)
    exact congrArg Except.ok (List.getElem?_eq_none (Nat.le_trans past within))

end Replay

namespace Inquiry

variable {inquiry : Inquiry} {value : Value} {node : RecordedValue}

/-- Without a registered formatter a child is what the stopped program reports. -/
theorem child_native (key : ChildKey) (ledger : Ledger) :
    (inquiry.child .native value key ledger).1 = nativeChild inquiry.replay value key := rfl

/-- The native formatter supplies what is recorded below a value. -/
theorem native_supplies (has : inquiry.replay.Has value node) :
    Handle.Supplies inquiry .native value (valuesOf (node.entries value.id)) := by
  -- The native formatter passes on what the replay answers for a position.
  intro index ledger
  rw [child_native, nativeChild, Replay.child_position has]
  rfl

end Inquiry

/-- Where nothing is registered the native formatter is left. -/
theorem Registry.resolve_of_unregistered {registry : Registry}
    (unregistered : registry.entries = []) (typeName : String) :
    registry.resolve typeName = .native := by
  -- No entry can match.
  simp only [Registry.resolve, Registry.lookup, unregistered]
  rfl

/-- Without a registered formatter a recorded value is classified by its kind. -/
theorem Classifications.determine_native {registry : Registry} (inquiry : Inquiry) {value : Value}
    (resolved : registry.resolve value.type.name = .native)
    {node : RecordedValue} (same : value = node.toValue value.id) (ledger : Ledger) :
    (determine registry inquiry value ledger).1 = ⟨node.childrenKind, .native⟩ := by
  have offered : Provider.native.formatter.capabilities value.type =
      node.type.shape.capabilities := by
    rw [same]
    rfl
  simp only [determine, resolved, offered]
  cases kind : node.kind with
  -- What is not an array is not asked for a size.
  | scalar | record | pointer => simp [RecordedValue.type, kind, TypeShape.capabilities,
      Capabilities.nothing, Capabilities.byName, Capabilities.isIndexed, RecordedValue.childrenKind]
  | array =>
    -- The length of an array is part of its type, so the size query cannot fail.
    have sized : (inquiry.size .native value ledger).1 = .ok node.children.length := by
      have length : value.type.shape = .array node.children.length := by
        rw [same]
        simp [RecordedValue.toValue, RecordedValue.type, kind]
      show nativeSize inquiry.replay value = _
      simp only [nativeSize, length]
    simp [RecordedValue.type, kind, TypeShape.capabilities, Capabilities.byPosition,
      Capabilities.isIndexed, RecordedValue.childrenKind, sized]

end Inspection
