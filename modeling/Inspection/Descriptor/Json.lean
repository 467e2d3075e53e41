import Inspection.Descriptor
import Inspection.Json.Reader

/-! A descriptor is written as JSON without the counts that are unknown, and read back from it. -/

namespace Inspection.Descriptor

/-- A descriptor as JSON, with unknown counts left out. -/
def toJson (descriptor : Descriptor) : Json :=
  .record ([("name", .text descriptor.name), ("value", .text descriptor.value),
      ("type", .text descriptor.typeName),
      ("variablesReference", .integer descriptor.reference.toInt)]
    ++ (descriptor.indexedCount.map fun count => ("indexedVariables", Json.natural count)).toList
    ++ (descriptor.namedCount.map fun count => ("namedVariables", Json.natural count)).toList)

/-- Reads a descriptor; counts may be null or missing. -/
def read? (depth : Nat) (value : Json) : Option Descriptor := do
  let _ ← Json.descend? depth
  match ← Json.fields? ["name", "value", "type", "variablesReference", "indexedVariables",
      "namedVariables"] value with
  | [name, shown, typeName, reference, indexed, named] =>
    let count := Json.orDefault none (Json.nullable Json.natural64?)
    return ⟨← Json.required Json.text? name, ← Json.required Json.text? shown,
      ← Json.required Json.text? typeName,
      Int64.ofInt (← Json.required Json.integer64? reference), ← count indexed, ← count named⟩
  | _ => none

end Inspection.Descriptor
