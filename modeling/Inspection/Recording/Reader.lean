import Inspection.Json.Parser
import Inspection.Json.Reader
import Inspection.Recording

/-! A recording is read from JSON; everything but names and types has a default. -/

namespace Inspection

/-- Reads a value tree, two containers deeper for each level of children. -/
def RecordedValue.read? (depth : Nat) (value : Json) : Option RecordedValue :=
  match depth with
  | 0 => none
  | inside + 1 => do
    let parts ← Json.fields? ["name", "type", "value", "kind", "children"] value
    match parts with
    | [name, typeName, summary, kind, children] => do
      let name ← Json.required Json.text? name
      let typeName ← Json.required Json.text? typeName
      let summary ← Json.orDefault "" Json.text? summary
      let kind ← Json.orDefault .scalar (Json.word? NodeKind.ofText? inside) kind
      let children ← match inside, children with
        | _, none => some []
        | 0, some _ => none
        | below + 1, some list => do (← list.elements?).mapM (RecordedValue.read? below)
      return ⟨name, typeName, summary, kind, children⟩
    | _ => none

/-- Reads a frame. -/
def RecordedFrame.read? (depth : Nat) (value : Json) : Option RecordedFrame := do
  let inside ← Json.descend? depth
  match ← Json.fields? ["name", "locals"] value with
  | [name, locals] =>
    return ⟨← Json.required Json.text? name,
      ← Json.orDefault [] (Json.list? RecordedValue.read? inside) locals⟩
  | _ => none

/-- Reads a stop. -/
def RecordedStop.read? (depth : Nat) (value : Json) : Option RecordedStop := do
  let inside ← Json.descend? depth
  match ← Json.fields? ["reason", "frames"] value with
  | [reason, frames] =>
    return ⟨← Json.orDefault .breakpoint (Json.word? StopReason.ofText? inside) reason,
      ← Json.orDefault [] (Json.list? RecordedFrame.read? inside) frames⟩
  | _ => none

/-- Reads a whole recording. -/
def Recording.read? (depth : Nat) (value : Json) : Option Recording := do
  let inside ← Json.descend? depth
  match ← Json.fields? ["stops"] value with
  | [stops] => return ⟨← Json.orDefault [] (Json.list? RecordedStop.read? inside) stops⟩
  | _ => none

/-- The recording a text holds. -/
def Recording.parse? (text : String) : Option Recording := do
  Recording.read? Json.nestingLimit (← Json.parse? text)

end Inspection
