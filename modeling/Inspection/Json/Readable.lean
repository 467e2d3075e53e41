import Inspection.Json
import Inspection.Text.Scientific

/-! A value can be read in full if its texts are whole, its numbers finite and its nesting shallow. -/

namespace Inspection.Json

mutual

/-- Whether a value can be read in full: whole texts, finite numbers and no deeper nesting. -/
def isReadable (depth : Nat) : Json → Bool
  | null | bool _ => true
  | number spelling => Text.isFinite spelling.toList
  | string text? => text?.isSome
  | array elements => decide (0 < depth) && areReadable (depth - 1) elements
  | object members => decide (0 < depth) && membersAreReadable (depth - 1) members

/-- Whether every element can be read in full. -/
def areReadable (depth : Nat) : List Json → Bool
  | [] => true
  | element :: rest => isReadable depth element && areReadable depth rest

/-- Whether every member can be read in full. -/
def membersAreReadable (depth : Nat) : List (Option String × Json) → Bool
  | [] => true
  | (name, value) :: rest =>
    name.isSome && isReadable depth value && membersAreReadable depth rest

end

end Inspection.Json
