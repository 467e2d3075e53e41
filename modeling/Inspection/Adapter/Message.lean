import Inspection.Descriptor
import Inspection.Json.Printer
import Inspection.Recording
import Inspection.Session

/-! Messages to the client are numbered; each is a response to one request or an event. -/

namespace Inspection.Adapter

/-- What a successful response tells. -/
inductive Body where
  /-- The requests that the adapter understands beyond the basic ones. -/
  | abilities
  | threads
  | frames (frames : List Frame)
  | scopes (scopes : List Scope)
  | listing (descriptors : List Descriptor)
  | evaluation (evaluation : Evaluation)
  /-- All threads run on. -/
  | running
  deriving DecidableEq, Repr

/-- How a request went. -/
inductive Verdict where
  | success (command : String) (body : Option Body)
  | failure (reason : String)
  deriving DecidableEq, Repr

/-- The answer to a request. -/
structure Response where
  /-- The number of the request. -/
  request : Int
  verdict : Verdict
  deriving DecidableEq, Repr

/-- Where the text of an output event belongs. -/
inductive Channel where
  | console
  | errors
  deriving DecidableEq, Repr

/-- What the client is told without asking. -/
inductive Event where
  | ready
  | stopped (reason : StopReason)
  | terminated
  | output (channel : Channel) (text : String)
  deriving DecidableEq, Repr

/-- What a message says. -/
inductive Content where
  | response (response : Response)
  | event (event : Event)
  deriving DecidableEq, Repr

/-- A numbered message to the client. -/
structure Message where
  number : Nat
  content : Content
  deriving DecidableEq, Repr

/-- The number of the only thread. -/
def threadNumber : Nat := 1

/-- A count as a signed number of 64 bits; large ones wrap around. -/
def countJson (count : Nat) : Json := .integer (Int64.ofNat count).toInt

/-- A member that stands only if it has a value. -/
def present (name : String) (encode : α → Json) (value? : Option α) : List (String × Json) :=
  (value?.map fun value => (name, encode value)).toList

/-- The type and the children of a descriptor; an empty type is left out. -/
def detailMembers (descriptor : Descriptor) : List (String × Json) :=
  present "type" Json.text (if descriptor.typeName.isEmpty then none else some descriptor.typeName)
    ++ [("variablesReference", .integer descriptor.reference.toInt)]
    ++ present "namedVariables" countJson descriptor.namedCount
    ++ present "indexedVariables" countJson descriptor.indexedCount

/-- A variable as the client sees it. -/
def variableJson (descriptor : Descriptor) : Json :=
  .record ([("name", .text descriptor.name), ("value", .text descriptor.value)]
    ++ detailMembers descriptor)

/-- A frame as the client sees it; nothing is known about its place in a source text. -/
def frameJson (frame : Frame) : Json :=
  .record [("id", countJson frame.index), ("name", .text frame.name), ("line", .natural 0),
    ("column", .natural 0)]

/-- A scope as the client sees it. -/
def scopeJson (scope : Scope) : Json :=
  .record [("name", .text scope.name), ("variablesReference", .integer scope.reference.toInt),
    ("expensive", .bool scope.expensive)]

/-- The result of an expression as the client sees it. -/
def evaluationJson : Evaluation → Json
  | .console output => .record [("result", .text output), ("variablesReference", .natural 0)]
  | .value descriptor => .record (("result", .text descriptor.value) :: detailMembers descriptor)

/-- What a response tells, as JSON. -/
def Body.toJson : Body → Json
  | .abilities => .record [("supportsConfigurationDoneRequest", .bool true),
      ("supportsTerminateRequest", .bool true)]
  | .threads => .record [("threads",
      .array [.record [("id", .natural threadNumber), ("name", .text "main")]])]
  | .frames stack => .record [("stackFrames", .array (stack.map frameJson)),
      ("totalFrames", countJson stack.length)]
  | .scopes groups => .record [("scopes", .array (groups.map scopeJson))]
  | .listing descriptors => .record [("variables", .array (descriptors.map variableJson))]
  | .evaluation result => evaluationJson result
  | .running => .record [("all_threads_continued", .bool true)]

/-- The members by which responses differ. -/
def Verdict.members : Verdict → List (String × Json)
  | success command body =>
    [("success", .bool true), ("command", .text command)] ++ present "body" Body.toJson body
  | failure reason => [("success", .bool false), ("message", .text reason)]

/-- The members by which events differ. -/
def Event.members : Event → List (String × Json)
  | ready => [("event", .text "initialized")]
  | stopped reason => [("event", .text "stopped"), ("body", .record [("reason", .text reason.text),
      ("description", .null), ("threadId", .natural threadNumber),
      ("preserveFocusHint", .bool false), ("text", .null), ("allThreadsStopped", .bool true),
      ("hitBreakpointIds", .null)])]
  | terminated => [("event", .text "terminated"), ("body", .null)]
  | output channel text => [("event", .text "output"), ("body", .record [
      ("category", .text (match channel with
        | .console => "console"
        | .errors => "stderr")),
      ("output", .text text), ("group", .null), ("variablesReference", .null), ("source", .null),
      ("line", .null), ("column", .null), ("data", .null)])]

/-- A message as JSON. -/
def Message.toJson (message : Message) : Json :=
  .record (("seq", .natural message.number) :: match message.content with
    | .response response => [("type", .text "response"), ("request_seq", .integer response.request)]
      ++ response.verdict.members ++ [("error", .null)]
    | .event event => ("type", .text "event") :: event.members)

end Inspection.Adapter
