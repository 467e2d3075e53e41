import Inspection.Descriptor
import Inspection.Json.Printer
import Inspection.Session

/-! A report shows the local variables of one frame and what it has cost to describe them. -/

namespace Inspection

/-- The local variables of a frame with the counters of the session. -/
structure Report where
  stop : Nat
  frame : Nat
  descriptors : List Descriptor
  tally : Tally
  /-- Type names whose size was asked for, in the order of the calls. -/
  sizeCalls : List String

namespace Report

/-- Reports on a frame of the current stop; the text is a diagnostic of the listing. -/
def ofFrame (session : Session) (stop frame : Nat) : Except InspectError (Report × Option String) :=
  match session.scopes frame with
  | (.error error, _) => .error error
  | (.ok scopes, session) =>
    let reference := match scopes with
      | [] => 0
      | scope :: _ => scope.reference
    let (outcome, session) := session.listVariables reference .all
    .ok (⟨stop, frame, outcome.descriptors, session.ledger.tally, session.ledger.sizeLog⟩,
      outcome.diagnostic)

/-- A descriptor with its members in the order of their names. -/
def descriptorJson (descriptor : Descriptor) : Json :=
  let count (name : String) (count? : Option Nat) : List (String × Json) :=
    (count?.map fun count => (name, Json.natural count)).toList
  .record (count "indexedVariables" descriptor.indexedCount
    ++ [("name", .text descriptor.name)]
    ++ count "namedVariables" descriptor.namedCount
    ++ [("type", .text descriptor.typeName), ("value", .text descriptor.value),
      ("variablesReference", .integer descriptor.reference.toInt)])

/-- The counts of one formatter with their members in the order of their names. -/
def countsJson (counts : CallCounts) : Json :=
  .record [("materialize_calls", .natural counts.child), ("size_calls", .natural counts.size),
    ("timed_out", .natural counts.timedOut)]

/-- A report with its members in the order of their names. -/
def toJson (report : Report) : Json :=
  .record [("counters", .record (report.tally.map fun (name, counts) => (name, countsJson counts))),
    ("frame", .natural report.frame), ("sizeCalls", .array (report.sizeCalls.map .text)),
    ("stop", .natural report.stop), ("variables", .array (report.descriptors.map descriptorJson))]

end Report

end Inspection
