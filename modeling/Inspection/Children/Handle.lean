import Inspection.Children.Kind

/-! A handle remembers what has been learned about the children of one target. -/

namespace Inspection

/-- What a handle gives access to. -/
inductive HandleTarget where
  /-- The local variables of a frame. -/
  | locals (frame : Nat)
  | value (value : Value)
  deriving DecidableEq, Repr, Inhabited

/-- Whether every child has been served. -/
inductive Coverage where
  | incomplete
  | complete
  deriving DecidableEq, Repr, Inhabited

/-- How much is known about a target's children. -/
inductive HandleState where
  | unresolved
  | sizeKnown (kind : ChildrenKind)
  | enumerated (kind : ChildrenKind) (coverage : Coverage)
  deriving DecidableEq, Repr, Inhabited

/-- The children of one target as far as they have been fetched. -/
structure Handle where
  target : HandleTarget
  state : HandleState
  /-- The positions fetched so far, each once. -/
  fetched : List Nat
  /-- The children fetched so far, by position. -/
  children : List (Nat × Value)
  /-- Where an enumeration without a known size ran off the end. -/
  namedEnd : Option Nat
  deriving DecidableEq, Repr, Inhabited

namespace Handle

/-- Nothing is known of a fresh target. -/
def fresh (target : HandleTarget) : Handle := ⟨target, .unresolved, [], [], none⟩

/-- Records a kind, unless one is recorded already. -/
def markClassified (handle : Handle) (kind : ChildrenKind) : Handle :=
  match handle.state with
  -- What an enumeration has found out is not overwritten.
  | .unresolved => { handle with state := .sizeKnown kind }
  | .sizeKnown _ | .enumerated _ _ => handle

/-- The number of named children, known only once every one has been served. -/
def knownNamedCount (handle : Handle) : Option Nat :=
  match handle.state with
  -- A known size is shown as such, and never as a count of names.
  | .enumerated .named .complete | .enumerated .undeclared .complete => handle.namedEnd
  | .enumerated (.indexed _) _ | .enumerated .named .incomplete
  | .enumerated .undeclared .incomplete | .unresolved | .sizeKnown _ => none

/-- The fetched child at a position. -/
def child? (handle : Handle) (index : Nat) : Option Value := handle.children.lookup index

/-- Remembers a fetched child. -/
def remember (handle : Handle) (index : Nat) (child : Value) : Handle :=
  { handle with
    -- A position that is fetched again is not counted again.
    fetched := if index ∈ handle.fetched then handle.fetched else index :: handle.fetched
    children := (index, child) :: handle.children }

/-- How many positions below a bound have been fetched. -/
def fetchedBelow (handle : Handle) (bound : Nat) : Nat :=
  (handle.fetched.filter (· < bound)).length

/-- Whether every child of the given kind has been fetched. -/
def isComplete (handle : Handle) (kind : ChildrenKind) : Bool :=
  match kind with
  | .indexed count => decide (count ≤ handle.fetchedBelow count)
  | .named | .undeclared =>
    -- Without an end nobody knows how many there are.
    match handle.namedEnd with
    | some bound => decide (bound ≤ handle.fetchedBelow bound)
    | none => false

/-- Records that a window of children has been served. -/
def recordWindow (handle : Handle) (kind : ChildrenKind) : Handle :=
  { handle with
    state := .enumerated kind (if handle.isComplete kind then .complete else .incomplete) }

end Handle

end Inspection
