import Inspection.Json.Readable
import Inspection.Json.Reader
import Inspection.Value

/-! Types are written as JSON with their shape tagged by a word, and read back from it. -/

namespace Inspection

/-- A shape as JSON. -/
def TypeShape.toJson : TypeShape → Json
  | scalar => .record [("kind", .text "scalar")]
  | pointer => .record [("kind", .text "pointer")]
  | record members => .record [("kind", .text "struct"), ("fields", .array (members.map .text))]
  | array length => .record [("kind", .text "array"), ("len", .natural length)]

/-- A type as JSON. -/
def TypeInfo.toJson (type : TypeInfo) : Json :=
  .record [("name", .text type.name), ("kind", type.shape.toJson)]

/-- Member names, as the part of a record that lists them. -/
def TypeShape.readMembers? (value : Json) : Option (List String) := do
  (← value.elements?).mapM Json.text?

/-- The shape that a tag and the parts beside it describe. -/
def TypeShape.ofTag? (tag : String) (parts : Json) : Option TypeShape :=
  let unit (shape : TypeShape) : Option TypeShape :=
    -- Beside a bare tag an object may hold anything and an array nothing.
    match parts with
    | .array (_ :: _) => none
    | _ => some shape
  match tag with
  | "scalar" => unit .scalar
  | "pointer" => unit .pointer
  | "struct" => do
    match ← Json.fields? ["fields"] parts with
    | [members] => return .record (← Json.required readMembers? members)
    | _ => none
  | "array" => do
    match ← Json.fields? ["len"] parts with
    | [length] => return .array (← Json.required Json.natural64? length)
    | _ => none
  | _ => none

/-- Reads a shape: an object with a tag among its members, or an array that begins with it. -/
def TypeShape.read? (depth : Nat) (value : Json) : Option TypeShape := do
  let inside ← Json.descend? depth
  match value with
  | .object members =>
    match members.partition fun pair => pair.1 == some "kind" with
    | ([(_, .string (some tag))], others) =>
      if Json.membersAreReadable inside others then ofTag? tag (.object others) else none
    | _ => none
  | .array (.string (some tag) :: others) =>
    if Json.areReadable inside others then ofTag? tag (.array others) else none
  | _ => none

/-- Reads a type. -/
def TypeInfo.read? (depth : Nat) (value : Json) : Option TypeInfo := do
  let inside ← Json.descend? depth
  match ← Json.fields? ["name", "kind"] value with
  | [name, shape] =>
    return ⟨← Json.required Json.text? name, ← Json.required (TypeShape.read? inside) shape⟩
  | _ => none

end Inspection
