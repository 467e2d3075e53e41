import Inspection.Formatter.Declaration
import Inspection.Json.Reader

/-! A declaration is read from JSON; only its name and its pattern are required. -/

namespace Inspection.Declaration

/-- Reads a declaration, written as an object or as an array in the order of the parts. -/
def read? (value : Json) : Option Declaration := do
  match ← Json.fields? ["name", "pattern", "regex", "indexed", "named", "size", "summary"] value with
  | [name, pattern, regex, indexed, named, size, summary] =>
    return ⟨← Json.required Json.text? name, ← Json.required Json.text? pattern,
      ← Json.orDefault false Json.bool? regex, ← Json.orDefault false Json.bool? indexed,
      ← Json.orDefault false Json.bool? named,
      ← Json.orDefault none (Json.nullable Json.natural64?) size,
      ← Json.orDefault none (Json.nullable Json.text?) summary⟩
  | _ => none

end Inspection.Declaration
