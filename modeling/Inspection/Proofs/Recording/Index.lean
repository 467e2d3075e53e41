import Inspection.Proofs.Replay

/-! A stop can be kept as one table of numbered rows, and while no two of its values have one number
the table reads back the recorded tree. -/

namespace Inspection

variable {Number : Type}

/-- What is made of a list by position is made anew in the same positions. -/
theorem map_mapIdx {Item Made Anew : Type} (items : List Item) (make : Nat → Item → Made)
    (renew : Made → Anew) :
    (items.mapIdx make).map renew = items.mapIdx fun index item => renew (make index item) := by
  -- Both lists have the same item in each position.
  refine List.ext_getElem? fun index => ?_
  simp only [List.getElem?_map, List.getElem?_mapIdx, Option.map_map]
  rfl

/-- Items that are labelled by their positions are the items themselves. -/
theorem map_snd_mapIdx {Item Label : Type} (items : List Item) (label : Nat → Label) :
    (items.mapIdx fun index item => (label index, item)).map (·.2) = items := by
  -- Each position gives back its own item.
  refine List.ext_getElem? fun index => ?_
  simp only [List.getElem?_map, List.getElem?_mapIdx, Option.map_map]
  exact Option.map_id'

/-- How identities are numbered: the number of a child follows from that of its parent. -/
structure Numbering (Number : Type) where
  given (number : Nat) : Number
  slot (frame place : Nat) : Number
  child (key : ChildKey) (parent : Number) : Number

/-- The number of an identity. -/
def Numbering.number (numbering : Numbering Number) : ValueId → Number
  | .given number => numbering.given number
  | .slot frame place => numbering.slot frame place
  | .child key parent => numbering.child key (numbering.number parent)

/-- A value that is known by a number. -/
structure NumberedValue (Number : Type) where
  number : Number
  name : String
  type : TypeInfo
  summary : String

/-- A value under the number of its identity. -/
def Value.numbered (numbering : Numbering Number) (value : Value) : NumberedValue Number :=
  ⟨numbering.number value.id, value.name, value.type, value.summary⟩

/-- A value in a table, with the numbers of its children. -/
structure Row (Number : Type) where
  value : NumberedValue Number
  children : List Number

/-- The rows of a stop, each behind its number; of two with one number the first is read. -/
abbrev Table (Number : Type) := List (Number × Row Number)

namespace Numbering

/-- The row of a recorded value. -/
def row (numbering : Numbering Number) (number : Number) (node : RecordedValue) : Row Number :=
  ⟨⟨number, node.name, node.type, node.summary⟩,
    node.offspring.mapIdx fun index _ => numbering.child (.position index) number⟩

mutual

/-- Puts a recorded value into a table, behind everything below it. -/
def insert (numbering : Numbering Number) (number : Number) (table : Table Number) :
    RecordedValue → Table Number
  | ⟨name, typeName, summary, kind, children⟩ =>
    let below := match kind with
      -- Whatever is recorded below a scalar is left out.
      | .scalar => table
      | .record | .array | .pointer => numbering.insertAll number 0 table children
    (number, numbering.row number ⟨name, typeName, summary, kind, children⟩) :: below

/-- Puts children into a table, the first of which is in a given position. -/
def insertAll (numbering : Numbering Number) (parent : Number) (position : Nat)
    (table : Table Number) : List RecordedValue → Table Number
  | [] => table
  | child :: rest =>
    numbering.insertAll parent (position + 1)
      (numbering.insert (numbering.child (.position position) parent) table child) rest

end

end Numbering

mutual

/-- A recorded value and all that can be reached below it, with their identities. -/
def RecordedValue.nodes (id : ValueId) : RecordedValue → List (ValueId × RecordedValue)
  | ⟨name, typeName, summary, kind, children⟩ =>
    let below := match kind with
      | .scalar => []
      | .record | .array | .pointer => RecordedValue.nodesBelow id 0 children
    (id, ⟨name, typeName, summary, kind, children⟩) :: below

/-- All that can be reached through children, the first of which is in a given position. -/
def RecordedValue.nodesBelow (parent : ValueId) (position : Nat) :
    List RecordedValue → List (ValueId × RecordedValue)
  | [] => []
  | child :: rest =>
    child.nodes (.child (.position position) parent) ++
      RecordedValue.nodesBelow parent (position + 1) rest

end

namespace RecordedValue

/-- A value holds its children as parts of itself. -/
theorem sizeOf_offspring {node child : RecordedValue} (member : child ∈ node.offspring) :
    sizeOf child < sizeOf node := by
  -- The offspring of a scalar is empty, and that of anything else its children.
  have part : child ∈ node.children := by
    cases kind : node.kind <;> simp [offspring, kind] at member
    all_goals exact member
  obtain ⟨name, typeName, summary, kind, children⟩ := node
  have smaller : sizeOf child < sizeOf children := List.sizeOf_lt_of_mem part
  simp only [mk.sizeOf_spec]
  omega

/-- What passes from the children of a value to itself holds of every value. -/
@[elab_as_elim]
theorem offspring_induct {motive : RecordedValue → Prop}
    (step : ∀ node, (∀ child ∈ node.offspring, motive child) → motive node)
    (node : RecordedValue) : motive node :=
  step node fun child member =>
    have : sizeOf child < sizeOf node := sizeOf_offspring member
    offspring_induct step child
termination_by sizeOf node

/-- What can be reached through children is what can be reached from each of them. -/
theorem nodesBelow_eq (parent : ValueId) (position : Nat) (children : List RecordedValue) :
    nodesBelow parent position children =
      (children.mapIdx fun index child =>
        (ValueId.child (.position (position + index)) parent, child)).flatMap fun entry =>
          entry.2.nodes entry.1 := by
  -- The induction is on the children, and the position of the first one goes up with it.
  induction children generalizing position with
  | nil => rfl
  | cons child rest ih =>
    simp only [nodesBelow, ih, List.mapIdx_cons, List.flatMap_cons, Nat.add_zero,
      Nat.add_right_comm position 1, ← Nat.add_assoc]

/-- A value reaches itself and what its children reach. -/
theorem nodes_eq (node : RecordedValue) (id : ValueId) :
    node.nodes id = (id, node) :: (node.entries id).flatMap fun entry => entry.2.nodes entry.1 := by
  -- Nothing is reached below a scalar, whose offspring is empty as well.
  obtain ⟨name, typeName, summary, kind, children⟩ := node
  cases kind <;> simp [nodes, nodesBelow_eq, entries, offspring]

/-- A value reaches the children of all that it reaches. -/
theorem nodes_closed {node : RecordedValue} {id : ValueId} {found entry : ValueId × RecordedValue}
    (reached : found ∈ node.nodes id) (below : entry ∈ found.2.entries found.1) :
    entry ∈ node.nodes id := by
  induction node using offspring_induct generalizing id with
  | step node ih =>
    rw [nodes_eq] at reached ⊢
    -- What is reached is the value itself, or it is reached from one of its children.
    refine List.mem_cons_of_mem _ (List.mem_flatMap.mpr ?_)
    rcases List.mem_cons.mp reached with rfl | further
    · -- A child of the value itself is reached from itself.
      refine ⟨entry, below, ?_⟩
      rw [nodes_eq]
      exact List.mem_cons_self
    · -- Below a child the induction finds it.
      obtain ⟨child, member, reached⟩ := List.mem_flatMap.mp further
      obtain ⟨index, inside, rfl⟩ := List.mem_mapIdx.mp member
      exact ⟨_, member, ih _ (List.getElem_mem inside) reached⟩

end RecordedValue

namespace Numbering

variable {numbering : Numbering Number}

/-- The row of a recorded value, behind the number of its identity. -/
def entry (numbering : Numbering Number) (found : ValueId × RecordedValue) : Number × Row Number :=
  (numbering.number found.1, numbering.row (numbering.number found.1) found.2)

/-- Puts a recorded value of an identity into a table with everything below it. -/
def enter (numbering : Numbering Number) (table : Table Number)
    (found : ValueId × RecordedValue) : Table Number :=
  numbering.insert (numbering.number found.1) table found.2

/-- Children are put into a table one after the other. -/
theorem insertAll_eq (parent : ValueId) (position : Nat) (table : Table Number)
    (children : List RecordedValue) :
    numbering.insertAll (numbering.number parent) position table children =
      (children.mapIdx fun index child =>
        (ValueId.child (.position (position + index)) parent, child)).foldl numbering.enter
          table := by
  -- The induction is on the children, and the position of the first one goes up with it.
  induction children generalizing position table with
  | nil => rfl
  | cons child rest ih =>
    simp only [insertAll, ih, List.mapIdx_cons, List.foldl_cons, Nat.add_zero,
      Nat.add_right_comm position 1, ← Nat.add_assoc]
    rfl

/-- A value is put in front of its children. -/
theorem enter_eq (table : Table Number) (found : ValueId × RecordedValue) :
    numbering.enter table found =
      numbering.entry found :: (found.2.entries found.1).foldl numbering.enter table := by
  -- A scalar is put in alone.
  obtain ⟨id, name, typeName, summary, kind, children⟩ := found
  cases kind <;>
    simp [enter, insert, insertAll_eq, entry, RecordedValue.entries, RecordedValue.offspring]

/-- Where each value brings in one row for all that it reaches, several do so together. -/
theorem foldl_enter_perm {found : List (ValueId × RecordedValue)}
    (each : ∀ entry ∈ found, ∀ table, (numbering.enter table entry).Perm
      ((entry.2.nodes entry.1).map numbering.entry ++ table)) (table : Table Number) :
    (found.foldl numbering.enter table).Perm
      ((found.flatMap fun entry => entry.2.nodes entry.1).map numbering.entry ++ table) := by
  -- The induction is on the values, each of which finds the rows of those before it in the table.
  induction found generalizing table with
  | nil => exact List.Perm.refl _
  | cons first rest ih =>
    obtain ⟨here, further⟩ := List.forall_mem_cons.mp each
    rw [List.foldl_cons, List.flatMap_cons, List.map_append]
    -- The rest comes in behind what the first has brought in.
    refine (ih further _).trans (((here table).append_left _).trans ?_)
    rw [← List.append_assoc]
    exact List.perm_append_comm.append_right table

/-- A value brings in one row for each value that it reaches, and takes none away. -/
theorem enter_perm (id : ValueId) (node : RecordedValue) (table : Table Number) :
    (numbering.enter table (id, node)).Perm ((node.nodes id).map numbering.entry ++ table) := by
  induction node using RecordedValue.offspring_induct generalizing id table with
  | step node ih =>
    rw [enter_eq, RecordedValue.nodes_eq, List.map_cons, List.cons_append]
    -- The children bring in what they reach, and then the row of their parent comes in front.
    refine (foldl_enter_perm (fun entry member table => ?_) table).cons _
    obtain ⟨index, inside, rfl⟩ := List.mem_mapIdx.mp member
    exact ih _ (List.getElem_mem inside) _ table

end Numbering

/-- The locals of all frames, with their identities. -/
def RecordedStop.entries (stop : RecordedStop) : List (ValueId × RecordedValue) :=
  (stop.frames.mapIdx fun frame recorded => recorded.entries frame).flatten

/-- All values of a stop that can be reached, with their identities. -/
def RecordedStop.nodes (stop : RecordedStop) : List (ValueId × RecordedValue) :=
  stop.entries.flatMap fun entry => entry.2.nodes entry.1

/-- A stop as numbers of locals and one table of all its values. -/
structure IndexedStop (Number : Type) where
  /-- The numbers of the locals of each frame. -/
  frames : List (List Number)
  table : Table Number

namespace RecordedStop

variable {stop : RecordedStop} {numbering : Numbering Number} {id : ValueId} {node : RecordedValue}

/-- Keeps a stop in a table. -/
def index (stop : RecordedStop) (numbering : Numbering Number) : IndexedStop Number where
  frames := stop.frames.mapIdx fun frame recorded =>
    recorded.locals.mapIdx fun place _ => numbering.slot frame place
  table := stop.entries.foldl numbering.enter []

/-- No two values of a stop have one number. -/
def Distinct (numbering : Numbering Number) (stop : RecordedStop) : Prop :=
  (stop.nodes.map fun found => numbering.number found.1).Nodup

/-- Whatever a walk down from a local finds can be reached. -/
theorem mem_nodes_of_find? (found : stop.find? id = some node) : (id, node) ∈ stop.nodes := by
  -- The induction is on the identity, which tells the way from a local.
  induction id generalizing node with
  | given _ => cases found
  | slot frame place =>
    obtain ⟨recorded, held, here⟩ := Option.bind_eq_some_iff.mp found
    obtain ⟨inside, rfl⟩ := List.getElem?_eq_some_iff.mp held
    obtain ⟨within, rfl⟩ := List.getElem?_eq_some_iff.mp here
    -- A local reaches itself.
    refine List.mem_flatMap.mpr ⟨(.slot frame place, _), List.mem_flatten.mpr ⟨_,
      List.mem_mapIdx.mpr ⟨frame, inside, rfl⟩, List.mem_mapIdx.mpr ⟨place, within, rfl⟩⟩, ?_⟩
    rw [RecordedValue.nodes_eq]
    exact List.mem_cons_self
  | child key parent ih =>
    cases key with
    | member name => cases found
    | position index =>
      -- The parent has been found, and holds the child in this position.
      obtain ⟨above, held, here⟩ := Option.bind_eq_some_iff.mp found
      obtain ⟨inside, rfl⟩ := List.getElem?_eq_some_iff.mp here
      obtain ⟨top, listed, reached⟩ := List.mem_flatMap.mp (ih held)
      -- The local that reaches the parent reaches the child as well.
      exact List.mem_flatMap.mpr ⟨top, listed, RecordedValue.nodes_closed reached
        (List.mem_mapIdx.mpr ⟨index, inside, rfl⟩)⟩

/-- A table has one row for each value of its stop. -/
theorem index_perm (stop : RecordedStop) (numbering : Numbering Number) :
    (stop.index numbering).table.Perm (stop.nodes.map numbering.entry) := by
  -- The table begins empty, and the locals come in one after the other.
  have entered : (stop.entries.foldl numbering.enter []).Perm
      (stop.nodes.map numbering.entry ++ []) :=
    Numbering.foldl_enter_perm
      (fun entry _ table => Numbering.enter_perm entry.1 entry.2 table) []
  rwa [List.append_nil] at entered

end RecordedStop

/-- Where no number comes twice, a row that is listed is the one that is looked up. -/
theorem Table.lookup_of_mem [DecidableEq Number] {table : Table Number}
    (distinct : (table.map (·.1)).Nodup) {number : Number} {row : Row Number}
    (member : (number, row) ∈ table) : table.lookup number = some row := by
  obtain ⟨before, after, rfl⟩ := List.append_of_mem member
  -- No row in front of it has its number.
  refine List.lookup_eq_some_iff.mpr ⟨before, after, rfl, fun earlier front => ?_⟩
  rw [List.map_append, List.map_cons, List.nodup_append] at distinct
  -- A row in front with the same number would be a second one.
  have apart := distinct.2.2 earlier.1 (List.mem_map_of_mem front) number List.mem_cons_self
  exact bne_iff_ne.mpr apart.symm

/-- While numbers are distinct, the row of a recorded value is found under its number. -/
theorem RecordedStop.lookup_index [DecidableEq Number] {stop : RecordedStop}
    {numbering : Numbering Number} (distinct : stop.Distinct numbering) {id : ValueId}
    {node : RecordedValue} (found : stop.find? id = some node) :
    (stop.index numbering).table.lookup (numbering.number id) =
      some (numbering.row (numbering.number id) node) := by
  have rows := stop.index_perm numbering
  -- The rows have the numbers of the values that can be reached, in some order.
  refine Table.lookup_of_mem ?_ (rows.mem_iff.mpr (List.mem_map_of_mem (mem_nodes_of_find? found)))
  refine (rows.map (·.1)).nodup_iff.mpr ?_
  rwa [List.map_map]

end Inspection
