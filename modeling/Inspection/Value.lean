/-! A value of a stopped program is known by an identity that its children's identities extend. -/

namespace Inspection

/-- The address of a child: a position in the child sequence or the name of a member. -/
inductive ChildKey where
  | position (index : Nat)
  | member (name : String)
  deriving DecidableEq, Repr, Inhabited

/-- Positions are written in brackets, member names bare. -/
def ChildKey.text : ChildKey → String
  | position index => "[" ++ toString index ++ "]"
  | member name => name

/-- The identity of a value within one stop. -/
inductive ValueId where
  /-- An identity chosen outside the recording. -/
  | given (number : Nat)
  /-- A local variable, by its frame and its place in that frame. -/
  | slot (frame place : Nat)
  /-- A child, by its key below its parent. -/
  | child (key : ChildKey) (parent : ValueId)
  deriving DecidableEq, Repr, Inhabited

namespace ValueId

/-- Only identities chosen outside the recording have a number to show. -/
def text : ValueId → String
  | given number => "ValueId(" ++ toString number ++ ")"
  | slot _ _ | child _ _ => "ValueId(#)"

/-- The identity at the end of a walk through child keys. -/
def descend (start : ValueId) (keys : List ChildKey) : ValueId :=
  keys.foldl (fun parent key => child key parent) start

@[simp] theorem descend_nil (start : ValueId) : start.descend [] = start := rfl

@[simp] theorem descend_cons (start : ValueId) (key : ChildKey) (keys : List ChildKey) :
    start.descend (key :: keys) = (child key start).descend keys := rfl

end ValueId

/-- What the type alone says about the shape of its values. -/
inductive TypeShape where
  /-- No children at all. -/
  | scalar
  /-- One child: the value pointed to. -/
  | pointer
  /-- Named members, listed in order. -/
  | record (members : List String)
  /-- A fixed number of elements. -/
  | array (length : Nat)
  deriving DecidableEq, Repr, Inhabited

/-- A shape admits children unless it is scalar or visibly empty. -/
def TypeShape.mayHaveChildren : TypeShape → Bool
  | scalar => false
  | pointer => true
  | record members => !members.isEmpty
  | array length => decide (0 < length)

/-- A named type together with its shape. -/
structure TypeInfo where
  name : String
  shape : TypeShape
  deriving DecidableEq, Repr, Inhabited

/-- Only a record's member count is known from its type alone. -/
def TypeInfo.memberCount? (type : TypeInfo) : Option Nat :=
  match type.shape with
  | .record members => some members.length
  | .scalar | .pointer | .array _ => none

/-- A value as the stopped program reports it: its children are asked for separately. -/
structure Value where
  id : ValueId
  name : String
  type : TypeInfo
  /-- The value as text. -/
  summary : String
  deriving DecidableEq, Repr, Inhabited

end Inspection
