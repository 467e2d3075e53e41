import Inspection.Value

/-! A recording is the list of stops a program went through, each with frames and value trees. -/

namespace Inspection

/-- Why the program halted. -/
inductive StopReason where
  | entry
  | breakpoint
  | step
  | pause
  | exception
  deriving DecidableEq, Repr, Inhabited

namespace StopReason

/-- The word for a reason, in recordings and in messages alike. -/
def text : StopReason → String
  | entry => "entry"
  | breakpoint => "breakpoint"
  | step => "step"
  | pause => "pause"
  | exception => "exception"

/-- Every reason, each once. -/
def all : List StopReason := [entry, breakpoint, step, pause, exception]

/-- The reason written as the given word. -/
def ofText? (word : String) : Option StopReason :=
  all.find? (fun reason => reason.text == word)

end StopReason

/-- How a recorded value holds its children. -/
inductive NodeKind where
  | scalar
  | record
  | array
  | pointer
  deriving DecidableEq, Repr, Inhabited

namespace NodeKind

/-- The word for a kind in recordings. -/
def text : NodeKind → String
  | scalar => "scalar"
  | record => "struct"
  | array => "array"
  | pointer => "pointer"

/-- Every kind, each once. -/
def all : List NodeKind := [scalar, record, array, pointer]

/-- The kind written as the given word. -/
def ofText? (word : String) : Option NodeKind :=
  all.find? (fun kind => kind.text == word)

end NodeKind

/-- One recorded value with the values below it. -/
structure RecordedValue where
  name : String
  typeName : String
  summary : String
  kind : NodeKind
  children : List RecordedValue
  deriving Repr, Inhabited

namespace RecordedValue

/-- The children that can be reached: a scalar has none, whatever is recorded below it. -/
def offspring (node : RecordedValue) : List RecordedValue :=
  match node.kind with
  | .scalar => []
  | .record | .array | .pointer => node.children

/-- The type a recorded value presents, its shape read off the recorded children. -/
def type (node : RecordedValue) : TypeInfo where
  name := node.typeName
  shape :=
    match node.kind with
    | .scalar => .scalar
    | .pointer => .pointer
    | .record => .record (node.children.map (·.name))
    | .array => .array node.children.length

/-- The recorded value as a value of the given identity. -/
def toValue (node : RecordedValue) (id : ValueId) : Value :=
  ⟨id, node.name, node.type, node.summary⟩

end RecordedValue

/-- One recorded stack frame with its local variables. -/
structure RecordedFrame where
  name : String
  locals : List RecordedValue
  deriving Repr, Inhabited

/-- One recorded stop with its frames, most recent first. -/
structure RecordedStop where
  reason : StopReason
  frames : List RecordedFrame
  deriving Repr, Inhabited

namespace RecordedStop

/-- The recorded value of an identity, found by walking down from its frame. -/
def find? (stop : RecordedStop) : ValueId → Option RecordedValue
  | .given _ => none
  | .slot frame place => do (← stop.frames[frame]?).locals[place]?
  | .child (.position index) parent => do (← stop.find? parent).offspring[index]?
  | .child (.member _) _ => none

/-- The local variables of a frame as values, in recording order. -/
def locals? (stop : RecordedStop) (frame : Nat) : Option (List Value) :=
  stop.frames[frame]?.map fun recorded =>
    recorded.locals.mapIdx fun place node => node.toValue (.slot frame place)

end RecordedStop

/-- The stops of one program run, in the order they happened. -/
structure Recording where
  stops : List RecordedStop
  deriving Repr, Inhabited

end Inspection
