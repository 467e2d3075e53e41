import Inspection.Formatter

/-! A classification says how a value's children are reached and who supplies them. -/

namespace Inspection

/-- How the children of a value are reached. -/
inductive ChildrenKind where
  /-- By position, with their number known. -/
  | indexed (count : Nat)
  /-- By name; their number is not asked for. -/
  | named
  /-- The formatter declares none. -/
  | undeclared
  deriving DecidableEq, Repr, Inhabited

/-- The kind of a value's children together with the formatter that decided it. -/
structure Classification where
  kind : ChildrenKind
  provider : Provider

end Inspection
