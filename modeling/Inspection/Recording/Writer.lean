import Inspection.Json
import Inspection.Recording

/-! A recording is written as JSON with every default spelled out. -/

namespace Inspection

mutual

/-- A value tree as JSON. -/
def RecordedValue.toJson : RecordedValue → Json
  | ⟨name, typeName, summary, kind, children⟩ => .record [
    ("name", .text name), ("type", .text typeName), ("value", .text summary),
    ("kind", .text kind.text), ("children", .array (RecordedValue.toJsonList children))]

/-- Each value tree of a list as JSON. -/
def RecordedValue.toJsonList : List RecordedValue → List Json
  | [] => []
  | node :: rest => RecordedValue.toJson node :: RecordedValue.toJsonList rest

end

/-- A frame as JSON. -/
def RecordedFrame.toJson (frame : RecordedFrame) : Json :=
  .record [("name", .text frame.name), ("locals", .array (frame.locals.map (·.toJson)))]

/-- A stop as JSON. -/
def RecordedStop.toJson (stop : RecordedStop) : Json :=
  .record [("reason", .text stop.reason.text), ("frames", .array (stop.frames.map (·.toJson)))]

/-- A recording as JSON. -/
def Recording.toJson (recording : Recording) : Json :=
  .record [("stops", .array (recording.stops.map (·.toJson)))]

end Inspection
