import Inspection.Children.Arena
import Inspection.Formatter.Error

/-! A descriptor presents a value with only those counts that cost nothing to know. -/

namespace Inspection

/-- A value as it is shown to a client. -/
structure Descriptor where
  name : String
  value : String
  typeName : String
  /-- The reference to the value's children, zero if it has none to offer. -/
  reference : Int64
  indexedCount : Option Nat
  namedCount : Option Nat
  deriving DecidableEq, Repr

namespace Descriptor

/-- The stand-in for a child that could not be fetched. -/
def placeholder (index : Nat) (error : FormatterError) : Descriptor :=
  ⟨(ChildKey.position index).text, "<error: " ++ error.message ++ ">", "", 0, none, none⟩

end Descriptor

/-- Whether a client is offered a handle for a value. -/
def Classification.isExpandable (classification : Classification) (value : Value) : Bool :=
  match classification.kind with
  | .indexed count => decide (0 < count)
  -- A registered formatter may find children where the type shows none.
  | .named => !classification.provider.isNative || value.type.shape.mayHaveChildren
  | .undeclared => value.type.shape.mayHaveChildren

namespace Arena

/-- The number of named children, where an enumeration or the native type already tells it. -/
def cheapNamedCount (arena : Arena) (value : Value) (classification : Classification) :
    Option Nat :=
  let enumerated := do
    let slot ← arena.slotOf value.id
    let handle ← arena.handle? slot
    handle.knownNamedCount
  match enumerated with
  | some count => some count
  -- A registered formatter may show members that the type does not declare.
  | none => if classification.provider.isNative then value.type.memberCount? else none

/-- The handle of an expandable value, made and marked with the kind of its children. -/
def offer (arena : Arena) (value : Value) (kind : ChildrenKind) : Int64 × Arena :=
  let (slot, arena) := arena.slotFor value
  -- The handle is there, for its place has just been found or made.
  let arena := match arena.handle? slot with
    | some handle => arena.setHandle slot (handle.markClassified kind)
    | none => arena
  (arena.referenceAt slot, arena)

/-- Describes a classified value; the summary is the formatter's, if it offered one. -/
def describe (arena : Arena) (value : Value) (classification : Classification)
    (summary : Option String) : Descriptor × Arena :=
  -- What cannot be expanded gets no handle, not even an unused one.
  let (reference, arena) :=
    if classification.isExpandable value then arena.offer value classification.kind
    else (0, arena)
  -- The two counts exclude each other.
  let counts : Option Nat × Option Nat := match classification.kind with
    | .indexed count => (some count, none)
    | .named | .undeclared => (none, arena.cheapNamedCount value classification)
  (⟨value.name, summary.getD value.summary, value.type.name, reference, counts.1, counts.2⟩,
    arena)

end Arena

end Inspection
