import Mathlib.Data.List.Basic
import Inspection.Proofs.Recording.Index

/-! A stop answers for every value that a walk arrives at as the recorded tree does, and its table
gives the same answers under numbers. -/

namespace Inspection

variable {Number : Type}

/-- Why a table cannot answer. -/
inductive IndexError (Number : Type) where
  | unknownFrame (frame : Nat)
  | unknownValue (number : Number)

namespace IndexedStop

variable [DecidableEq Number]

/-- The row of a number. -/
def find? (indexed : IndexedStop Number) (number : Number) : Option (Row Number) :=
  List.lookup number indexed.table

/-- The row of a value. -/
def row (indexed : IndexedStop Number) (number : Number) :
    Except (IndexError Number) (Row Number) :=
  match indexed.find? number with
  | some row => .ok row
  | none => .error (.unknownValue number)

/-- The local variables of a frame. -/
def locals (indexed : IndexedStop Number) (frame : Nat) :
    Except (IndexError Number) (List (NumberedValue Number)) :=
  match indexed.frames[frame]? with
  | some numbers => numbers.mapM fun number => return (← indexed.row number).value
  | none => .error (.unknownFrame frame)

/-- The number of children of a value. -/
def childCount (indexed : IndexedStop Number) (value : NumberedValue Number) :
    Except (IndexError Number) Nat :=
  return (← indexed.row value.number).children.length

/-- One child of a value; a member is the first child of that name. -/
def child (indexed : IndexedStop Number) (value : NumberedValue Number) (key : ChildKey) :
    Except (IndexError Number) (Option (NumberedValue Number)) := do
  let numbers := (← indexed.row value.number).children
  let row? := match key with
    | .position index => numbers[index]?.bind indexed.find?
    | .member name => (numbers.filterMap indexed.find?).find? fun row => row.value.name == name
  return row?.map (·.value)

end IndexedStop

/-- What a value shows of itself: its name, the name of its type, and its text. -/
def Value.shown (value : Value) : String × String × String :=
  (value.name, value.type.name, value.summary)

namespace RecordedValue

/-- The recorded name, the recorded name of the type, and the recorded text. -/
def shown (node : RecordedValue) : String × String × String :=
  (node.name, node.typeName, node.summary)

/-- The recorded value at the end of a path of positions. -/
def descendant? (node : RecordedValue) : List Nat → Option RecordedValue
  | [] => some node
  | index :: path => do (← node.children[index]?).descendant? path

/-- The recorded child of a key; a scalar has none, whatever is recorded below it. -/
def child? (node : RecordedValue) (key : ChildKey) : Option RecordedValue :=
  if node.kind = .scalar then none
  else
    match key with
    | .position index => node.children[index]?
    | .member name => node.children.find? fun child => child.name == name

/-- The number of recorded children; a scalar has none, whatever is recorded below it. -/
def childCount (node : RecordedValue) : Nat :=
  if node.kind = .scalar then 0 else node.children.length

/-- What can be reached below a value are its recorded children, unless it is scalar. -/
theorem offspring_eq (node : RecordedValue) :
    node.offspring = if node.kind = .scalar then [] else node.children := by
  -- Only a scalar hides what is recorded below it.
  cases kind : node.kind <;> simp [offspring, kind]

/-- What is reached in a position is recorded in it. -/
theorem getElem?_children {node child : RecordedValue} {index : Nat}
    (reached : node.offspring[index]? = some child) : node.children[index]? = some child := by
  -- Below a scalar nothing is reached.
  rw [offspring_eq] at reached
  split at reached
  · cases reached
  · exact reached

/-- The recorded children are those that can be reached. -/
theorem child?_eq (node : RecordedValue) (key : ChildKey) :
    node.child? key =
      match key with
      | .position index => node.offspring[index]?
      | .member name => node.offspring.find? fun child => child.name == name := by
  -- Either key is looked for among the children of anything but a scalar.
  simp only [child?, offspring_eq]
  cases key <;> split <;> rfl

/-- The recorded number of children is the number of those that can be reached. -/
theorem childCount_eq (node : RecordedValue) : node.childCount = node.offspring.length := by
  -- A scalar counts none, and anything else counts its children.
  rw [childCount, offspring_eq]
  split <;> rfl

/-- Beside their identities the entries below a value are its children. -/
theorem map_entries_snd (node : RecordedValue) (id : ValueId) :
    (node.entries id).map (·.2) = node.offspring :=
  map_snd_mapIdx node.offspring _

end RecordedValue

/-- Beside their identities the entries of a frame are its locals. -/
theorem RecordedFrame.map_entries_snd (recorded : RecordedFrame) (frame : Nat) :
    (recorded.entries frame).map (·.2) = recorded.locals :=
  map_snd_mapIdx recorded.locals _

/-- The recorded value at the end of a path of positions from a local. -/
def RecordedStop.descendant? (stop : RecordedStop) (frame place : Nat) (path : List Nat) :
    Option RecordedValue := do
  (← (← stop.frames[frame]?).locals[place]?).descendant? path

section Walk

variable {Fault Shown : Type}

/-- The value at the end of a path of positions, unless a child is missing on the way. -/
def walk (child : Shown → ChildKey → Except Fault (Option Shown)) (value : Shown) :
    List Nat → Except Fault (Option Shown)
  | [] => .ok (some value)
  | index :: path => do
    match ← child value (.position index) with
    | some next => walk child next path
    | none => .ok none

/-- The value at the end of a path of positions from a local. -/
def walkFrom (locals : Nat → Except Fault (List Shown))
    (child : Shown → ChildKey → Except Fault (Option Shown)) (frame place : Nat)
    (path : List Nat) : Except Fault (Option Shown) := do
  match (← locals frame)[place]? with
  | some value => walk child value path
  | none => .ok none

end Walk

/-- The child of a key among children; a member is the first of that name. -/
def ChildKey.pick (key : ChildKey) (children : List Value) : Option Value :=
  match key with
  | position index => children[index]?
  | member name => children.find? fun child => child.name == name

/-- The child that is picked below a recorded value is the recorded one. -/
theorem RecordedValue.shown_pick (node : RecordedValue) (id : ValueId) (key : ChildKey) :
    (key.pick (valuesOf (node.entries id))).map Value.shown = (node.child? key).map shown := by
  -- A key looks at places and names alone, and both are those of the recorded children.
  rw [child?_eq, ← node.map_entries_snd id]
  cases key with
  | position index =>
    simp only [ChildKey.pick, valuesOf, List.getElem?_map, Option.map_map]
    rfl
  | member name =>
    simp only [ChildKey.pick, valuesOf, List.find?_map, Option.map_map]
    rfl

/-- Questions about some things are all answered if the one about each of them is. -/
theorem mapM_map_eq_ok {Thing Question Answer Fault : Type} {ask : Question → Except Fault Answer}
    {about : Thing → Question} {answer : Thing → Answer} {things : List Thing}
    (answered : ∀ thing ∈ things, ask (about thing) = .ok (answer thing)) :
    (things.map about).mapM ask = .ok (things.map answer) := by
  -- The induction is on the things, the question about each of which is answered.
  induction things with
  | nil => rfl
  | cons first rest ih =>
    obtain ⟨here, further⟩ := List.forall_mem_cons.mp answered
    rw [List.map_cons, List.mapM_cons, here, ih further]
    rfl

namespace Replay

variable {replay : Replay} {value : Value} {node : RecordedValue} {stop : RecordedStop}
  {frame : Nat} {recorded : RecordedFrame}

/-- The locals of a recorded frame are listed in their places. -/
theorem locals_of_frame (current : replay.stops[replay.cursor]? = some stop)
    (held : stop.frames[frame]? = some recorded) :
    replay.locals frame = .ok (valuesOf (recorded.entries frame)) := by
  -- The identity of a local is made of its frame and its place.
  have listed : stop.locals? frame = some (valuesOf (recorded.entries frame)) := by
    simp only [RecordedStop.locals?, held, Option.map_some, valuesOf, RecordedFrame.entries,
      map_mapIdx]
  simp only [locals, Replay.current, current, bind, Except.bind, listed]
  rfl

/-- A frame that is not recorded has no locals. -/
theorem locals_of_missing (current : replay.current = .ok stop)
    (missing : stop.frames.length ≤ frame) :
    replay.locals frame = .error (.unknownFrame frame) := by
  -- Past the recorded frames there is none to look up.
  simp only [locals, current, bind, Except.bind, RecordedStop.locals?,
    List.getElem?_eq_none missing, Option.map_none]
  rfl

/-- A recorded value answers with the child that is picked among those recorded below it. -/
theorem child_eq_pick (has : replay.Has value node) (key : ChildKey) :
    replay.child value key = .ok (key.pick (valuesOf (node.entries value.id))) := by
  cases key with
  | position index => exact child_position has index
  | member name =>
    -- A member is looked for among the recorded values and then taken by its position.
    have positions : ∀ index : Nat, (node.offspring[index]?.bind fun child =>
        pure (child.toValue (.child (.position index) value.id))) =
          (valuesOf (node.entries value.id))[index]? := by
      intro index
      have here := child_position has index
      simp only [Replay.child, has.1, bind, Except.bind] at here
      exact Except.ok.inj here
    have named : (valuesOf (node.entries value.id)).findIdx? (fun child => child.name == name) =
        node.offspring.findIdx? fun child => child.name == name := by
      rw [← node.map_entries_snd value.id, valuesOf, List.findIdx?_map, List.findIdx?_map]
      rfl
    simp only [ChildKey.pick, List.find?_eq_bind_findIdx?_getElem?, named, Replay.child, has.1,
      bind, Except.bind, positions]
    rfl

/-- A recorded value counts what is recorded below it. -/
theorem childCount_eq (has : replay.Has value node) :
    replay.childCount value = .ok node.offspring.length := by
  -- The value is found by its identity, and its children are counted.
  simp only [Replay.childCount, has.1]
  rfl

end Replay

/-- The children in a row are the numbers of what is recorded below the value. -/
theorem Numbering.row_children (numbering : Numbering Number) (id : ValueId)
    (node : RecordedValue) : (numbering.row (numbering.number id) node).children =
      (node.entries id).map fun entry => numbering.number entry.1 := by
  rw [RecordedValue.entries, map_mapIdx]
  rfl

namespace RecordedStop

variable [DecidableEq Number] {stop : RecordedStop} {numbering : Numbering Number}
  {replay : Replay} {value : Value} {node : RecordedValue}

/-- A frame that is not recorded has no locals. -/
theorem locals_index_of_missing (stop : RecordedStop) (numbering : Numbering Number) {frame : Nat}
    (missing : stop.frames.length ≤ frame) :
    (stop.index numbering).locals frame = .error (.unknownFrame frame) := by
  -- A table has a row of locals for each recorded frame, and no other.
  have nothing : (stop.index numbering).frames[frame]? = none := by
    simp only [index, List.getElem?_mapIdx, List.getElem?_eq_none missing, Option.map_none]
  rw [IndexedStop.locals, nothing]

variable (distinct : stop.Distinct numbering) (current : replay.stops[replay.cursor]? = some stop)

include distinct current

/-- The row of a recorded value is found under the number of its identity. -/
theorem find?_index {id : ValueId} (found : replay.node id = .ok node) :
    (stop.index numbering).find? (numbering.number id) =
      some (numbering.row (numbering.number id) node) := by
  -- The identity is found in the current stop, and among distinct numbers its row is found first.
  obtain ⟨other, same, here⟩ := Replay.node_eq_ok.mp found
  obtain rfl := Option.some.inj (current.symm.trans same)
  exact lookup_index distinct here

/-- The row of a recorded value is there. -/
theorem row_index {id : ValueId} (found : replay.node id = .ok node) :
    (stop.index numbering).row (numbering.number id) =
      .ok (numbering.row (numbering.number id) node) := by
  rw [IndexedStop.row, find?_index distinct current found]

/-- A table answers for a value with the child that is picked among those recorded below it. -/
theorem child_index (has : replay.Has value node) (key : ChildKey) :
    (stop.index numbering).child (value.numbered numbering) key =
      .ok ((key.pick (valuesOf (node.entries value.id))).map (·.numbered numbering)) := by
  have rows : ∀ entry ∈ node.entries value.id,
      (stop.index numbering).find? (numbering.number entry.1) =
        some (numbering.row (numbering.number entry.1) entry.2) :=
    fun _ member => find?_index distinct current (Replay.node_of_parent has.1 member)
  simp only [IndexedStop.child, Value.numbered, row_index distinct current has.1, bind,
    Except.bind, Numbering.row_children]
  cases key with
  | position index =>
    simp only [ChildKey.pick, valuesOf, List.getElem?_map]
    -- A position is picked among the numbers, and then its row is looked up.
    cases listed : (node.entries value.id)[index]? with
    | none => rfl
    | some entry =>
      simp only [Option.map_some, Option.bind_some, rows entry (List.mem_of_getElem? listed)]
      rfl
  | member name =>
    -- A member is picked among the rows of the children, all of which are there.
    have found : ((node.entries value.id).map fun entry => numbering.number entry.1).filterMap
        (stop.index numbering).find? = (node.entries value.id).map fun entry =>
          numbering.row (numbering.number entry.1) entry.2 := by
      rw [List.filterMap_map]
      exact (List.filterMap_congr rows).trans (congrFun List.filterMap_eq_map _)
    simp only [found, ChildKey.pick, valuesOf, List.find?_map, Option.map_map]
    rfl

/-- A table counts what is recorded below a value. -/
theorem childCount_index (has : replay.Has value node) :
    (stop.index numbering).childCount (value.numbered numbering) = .ok node.offspring.length := by
  -- A row has one number for each child.
  simp only [IndexedStop.childCount, Value.numbered, row_index distinct current has.1, bind,
    Except.bind, Numbering.row, List.length_mapIdx]
  rfl

/-- A table lists the locals of a frame in their places. -/
theorem locals_index {frame : Nat} {recorded : RecordedFrame}
    (held : stop.frames[frame]? = some recorded) :
    (stop.index numbering).locals frame =
      .ok ((valuesOf (recorded.entries frame)).map (·.numbered numbering)) := by
  -- A frame lists the numbers of its locals in their places.
  have listed : (stop.index numbering).frames[frame]? =
      some ((recorded.entries frame).map fun entry => numbering.number entry.1) := by
    simp only [index, List.getElem?_mapIdx, held, Option.map_some, RecordedFrame.entries,
      map_mapIdx]
    rfl
  simp only [IndexedStop.locals, listed, valuesOf, List.map_map]
  -- The row of each local is there, so all of them are read.
  refine mapM_map_eq_ok fun entry member => ?_
  simp only [row_index distinct current (Replay.node_of_frame current held member)]
  rfl

/-- A walk from a recorded value arrives where the recorded tree leads, by table or without. -/
theorem walk_index (has : replay.Has value node) (path : List Nat) :
    ∃ answer, walk replay.child value path = .ok answer ∧
      walk (stop.index numbering).child (value.numbered numbering) path =
        .ok (answer.map (·.numbered numbering)) ∧
      ∀ found, answer = some found →
        ∃ below, node.descendant? path = some below ∧ replay.Has found below := by
  -- The induction is on the path; each step goes to one of the children recorded below.
  induction path generalizing value node with
  | nil => exact ⟨some value, rfl, rfl, fun _ same => ⟨node, rfl, Option.some.inj same ▸ has⟩⟩
  | cons index path ih =>
    simp only [walk, Replay.child_eq_pick has, child_index distinct current has, bind, Except.bind]
    simp only [ChildKey.pick, valuesOf, List.getElem?_map]
    cases listed : (node.entries value.id)[index]? with
    | none => exact ⟨none, rfl, rfl, by rintro _ ⟨⟩⟩
    | some entry =>
      have next := Replay.has_toValue
        (Replay.node_of_parent has.1 (List.mem_of_getElem? listed))
      obtain ⟨answer, walked, indexed, arrives⟩ := ih next
      refine ⟨answer, walked, indexed, fun found same => ?_⟩
      obtain ⟨below, recorded, has⟩ := arrives found same
      refine ⟨below, ?_, has⟩
      -- What a position picks below a value is recorded in that position.
      have reached : node.offspring[index]? = some entry.2 := by
        rw [← node.map_entries_snd value.id, List.getElem?_map, listed, Option.map_some]
      simp only [RecordedValue.descendant?, RecordedValue.getElem?_children reached,
        Option.bind_eq_bind, Option.bind_some, recorded]

/-- A walk from a local arrives where the recorded tree leads, by table or without. -/
theorem walkFrom_index {frame : Nat} {recorded : RecordedFrame}
    (held : stop.frames[frame]? = some recorded) (place : Nat) (path : List Nat) :
    ∃ answer, walkFrom replay.locals replay.child frame place path = .ok answer ∧
      walkFrom (stop.index numbering).locals (stop.index numbering).child frame place path =
        .ok (answer.map (·.numbered numbering)) ∧
      ∀ found, answer = some found →
        ∃ node, stop.descendant? frame place path = some node ∧ replay.Has found node := by
  simp only [walkFrom, Replay.locals_of_frame current held, locals_index distinct current held,
    bind, Except.bind, valuesOf, List.getElem?_map, descendant?, held, Option.bind_some]
  cases listed : (recorded.entries frame)[place]? with
  | none => exact ⟨none, rfl, rfl, by rintro _ ⟨⟩⟩
  | some entry =>
    have has := Replay.has_toValue
      (Replay.node_of_frame current held (List.mem_of_getElem? listed))
    obtain ⟨answer, walked, indexed, arrives⟩ := walk_index distinct current has path
    refine ⟨answer, walked, indexed, fun found same => ?_⟩
    -- The walk starts at the local that is recorded in the place.
    rw [← recorded.map_entries_snd frame, List.getElem?_map, listed]
    exact arrives found same

end RecordedStop

namespace Replay

/-- A replay can go to any stop that is recorded. -/
theorem seek_recorded {recording : Recording} {number : Nat} {stop : RecordedStop}
    (here : recording.stops[number]? = some stop) :
    ∃ replay, (start recording).seek number = .ok replay ∧
      replay.stops[replay.cursor]? = some stop :=
  ⟨⟨recording.stops, number⟩, if_pos (List.getElem?_eq_some_iff.mp here).1, here⟩

variable {replay : Replay} {value : Value} {node : RecordedValue}

/-- A value shows what is recorded of it. -/
theorem Has.shown (has : replay.Has value node) : value.shown = node.shown := by
  -- The value is made from the recorded one, with nothing but an identity added.
  rw [has.2]
  rfl

/-- The type of an array says how many children are recorded. -/
theorem Has.length_eq (has : replay.Has value node) {length : Nat}
    (array : value.type.shape = .array length) : length = node.childCount := by
  rw [has.2] at array
  -- Only an array has a type that tells a length.
  cases kind : node.kind <;>
    simp [RecordedValue.toValue, RecordedValue.type, RecordedValue.childCount, kind] at array ⊢
  exact array.symm

/-- The type of a record says which children are recorded. -/
theorem Has.members_eq (has : replay.Has value node) {members : List String}
    (record : value.type.shape = .record members) :
    members.length = node.childCount ∧ members = node.children.map (·.name) := by
  rw [has.2] at record
  -- Only a record has a type that tells members.
  cases kind : node.kind <;>
    simp [RecordedValue.toValue, RecordedValue.type, RecordedValue.childCount, kind] at record ⊢
  rw [← record]
  exact ⟨List.length_map _, rfl⟩

/--
A replay answers as recorded, and the table of a stop gives the same answers under numbers.

A frame has its recorded locals in order, and only an unrecorded frame is unknown.
Every walk along positions is answered, and where it arrives the recorded value is shown.
There a child is the recorded one of its key, and none below a scalar, and children are counted.
The count is what the type says of an array's length and of a record's members.
-/
theorem recording_mirrored {Number : Type} [DecidableEq Number] (numbering : Numbering Number)
    (recording : Recording) (number : Nat) (stop : RecordedStop)
    (here : recording.stops[number]? = some stop) (distinct : stop.Distinct numbering) :
    ∃ replay, (start recording).seek number = .ok replay ∧ replay.current = .ok stop ∧
      let indexed := stop.index numbering
      (∀ frame, stop.frames.length ≤ frame →
        replay.locals frame = .error (.unknownFrame frame) ∧
          indexed.locals frame = .error (.unknownFrame frame)) ∧
      ∀ frame recorded, stop.frames[frame]? = some recorded →
        (∃ values, replay.locals frame = .ok values ∧
          indexed.locals frame = .ok (values.map (·.numbered numbering)) ∧
          values.map Value.shown = recorded.locals.map RecordedValue.shown) ∧
        ∀ place path, ∃ answer,
          walkFrom replay.locals replay.child frame place path = .ok answer ∧
          walkFrom indexed.locals indexed.child frame place path =
            .ok (answer.map (·.numbered numbering)) ∧
          ∀ value, answer = some value → ∃ node, stop.descendant? frame place path = some node ∧
            value.shown = node.shown ∧
            (∀ key, ∃ child, replay.child value key = .ok child ∧
              indexed.child (value.numbered numbering) key =
                .ok (child.map (·.numbered numbering)) ∧
              child.map Value.shown = (node.child? key).map RecordedValue.shown) ∧
            replay.childCount value = .ok node.childCount ∧
            indexed.childCount (value.numbered numbering) = .ok node.childCount ∧
            (∀ length, value.type.shape = .array length → length = node.childCount) ∧
            ∀ members, value.type.shape = .record members →
              members.length = node.childCount ∧ members = node.children.map (·.name) := by
  -- Once the replay is at the stop, both answer from the same recorded tree.
  obtain ⟨replay, sought, current⟩ := seek_recorded here
  have stopped : replay.current = .ok stop := by rw [Replay.current, current]
  refine ⟨replay, sought, stopped, fun frame missing => ⟨locals_of_missing stopped missing,
    stop.locals_index_of_missing numbering missing⟩, fun frame recorded held => ⟨?_, ?_⟩⟩
  · refine ⟨_, locals_of_frame current held, RecordedStop.locals_index distinct current held, ?_⟩
    -- A local that is listed shows what is recorded of it.
    rw [← recorded.map_entries_snd frame, valuesOf, List.map_map, List.map_map]
    rfl
  · intro place path
    obtain ⟨answer, walked, indexed, arrives⟩ :=
      RecordedStop.walkFrom_index distinct current held place path
    refine ⟨answer, walked, indexed, fun value same => ?_⟩
    -- Where the walk arrives a recorded value stands, and everything is read off that one.
    obtain ⟨node, below, has⟩ := arrives value same
    refine ⟨node, below, has.shown, fun key => ⟨_, child_eq_pick has key,
      RecordedStop.child_index distinct current has key, node.shown_pick value.id key⟩, ?_, ?_,
      fun _ => has.length_eq, fun _ => has.members_eq⟩
    · rw [node.childCount_eq]
      exact childCount_eq has
    · rw [node.childCount_eq]
      exact RecordedStop.childCount_index distinct current has

end Replay

/-- Every identity is its own number. -/
def Numbering.self : Numbering ValueId := ⟨.given, .slot, .child⟩

namespace PairAndScalar

/-- A pair, and a scalar below which a member is recorded all the same. -/
def stop : RecordedStop :=
  ⟨.breakpoint, [⟨"main", [
    ⟨"p", "Pair", "(1, 2)", .record, [
      ⟨"first", "int", "1", .scalar, []⟩, ⟨"second", "int", "2", .scalar, []⟩]⟩,
    ⟨"n", "int", "5", .scalar, [⟨"x", "int", "1", .scalar, []⟩]⟩]⟩]⟩

/-- The stop alone. -/
def recording : Recording := ⟨[stop]⟩

/-- The four values that can be reached have identities of their own. -/
theorem distinct : stop.Distinct .self := by
  unfold RecordedStop.Distinct
  decide

end PairAndScalar

namespace Replay

open PairAndScalar

/-- Every walk from a pair or a scalar is answered, by the table as by the replay. -/
theorem pairAndScalar_mirrored : recording.stops[0]? = some stop ∧ stop.Distinct .self ∧
    ∃ replay, (start recording).seek 0 = .ok replay ∧
      ∀ place path, ∃ answer,
        walkFrom replay.locals replay.child 0 place path = .ok answer ∧
        walkFrom (stop.index .self).locals (stop.index .self).child 0 place path =
          .ok (answer.map (·.numbered .self)) := by
  -- The stop is recorded in the first place, and its identities are distinct.
  obtain ⟨replay, sought, _, _, answered⟩ := recording_mirrored .self recording 0 stop rfl distinct
  refine ⟨rfl, distinct, replay, sought, fun place path => ?_⟩
  obtain ⟨answer, walked, indexed, _⟩ := (answered 0 _ rfl).2 place path
  exact ⟨answer, walked, indexed⟩

/-- The member below the scalar is recorded, but neither the replay nor the table reports it. -/
theorem scalar_member_unreported : stop.Distinct .self ∧
    ∃ replay value node, (start recording).seek 0 = .ok replay ∧
      walkFrom replay.locals replay.child 0 1 [] = .ok (some value) ∧
      stop.descendant? 0 1 [] = some node ∧
      (node.children.find? fun child => child.name == "x").map RecordedValue.shown =
        some ("x", "int", "1") ∧
      replay.child value (.member "x") = .ok none ∧
      (stop.index .self).child (value.numbered .self) (.member "x") = .ok none :=
  ⟨distinct, ⟨[stop], 0⟩, ⟨.slot 0 1, "n", ⟨"int", .scalar⟩, "5"⟩,
    ⟨"n", "int", "5", .scalar, [⟨"x", "int", "1", .scalar, []⟩]⟩,
    rfl, rfl, rfl, rfl, rfl, rfl⟩

end Replay

end Inspection
