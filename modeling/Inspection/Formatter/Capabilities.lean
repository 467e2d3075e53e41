/-! Capabilities say beforehand which questions a formatter answers. -/

namespace Inspection

/-- What a formatter offers for values of one type. -/
structure Capabilities where
  size : Bool
  indexed : Bool
  named : Bool
  deriving DecidableEq, Repr, Inhabited

namespace Capabilities

/-- Nothing on offer. -/
def nothing : Capabilities := ⟨false, false, false⟩

/-- A size and children by position. -/
def byPosition : Capabilities := ⟨true, true, false⟩

/-- Children by name. -/
def byName : Capabilities := ⟨false, false, true⟩

/-- Children count as indexed only where their number can be asked for as well. -/
def isIndexed (offered : Capabilities) : Bool := offered.indexed && offered.size

/-- The offered capabilities separated by commas. -/
def text (offered : Capabilities) : String :=
  let flags := (if offered.size then ["size"] else [])
    ++ (if offered.indexed then ["indexed"] else [])
    ++ (if offered.named then ["named"] else [])
  if flags.isEmpty then "none" else String.intercalate "," flags

end Capabilities

end Inspection
