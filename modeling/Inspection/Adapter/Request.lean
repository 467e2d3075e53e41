import Inspection.Adapter.Command
import Inspection.Json.Parser
import Inspection.Json.Readable

/-! A request is a numbered command; its members may stand in any order and others are skipped. -/

namespace Inspection.Adapter

/-- A numbered command. -/
structure Request where
  number : Int
  command : Command
  deriving DecidableEq, Repr

namespace Request

/-- Reads a request from a JSON object. -/
def read? : Json → Option Request
  | .object members => do
    match ← Json.pick? ["seq", "command", "arguments"] members with
    | [number, name, arguments] =>
      let number ← Json.required Json.integer64? number
      let name ← Json.required Json.text? name
      return ⟨number, ← Command.read? name arguments⟩
    | _ => none
  | _ => none

/-- The request that a text holds. -/
def parse? (text : String) : Option Request := do
  let value ← Json.parse? text
  if value.isReadable Json.nestingLimit then read? value else none

end Request

end Inspection.Adapter
