import Inspection.Adapter.Envelope
import Inspection.Adapter.Message
import Inspection.Adapter.Request

/-! The adapter serves one request after the other from a session and numbers what it sends. -/

namespace Inspection

/-- One conversation with a client. -/
structure Adapter where
  session : Session
  /-- The number of messages sent so far. -/
  sent : Nat
  /-- No request has ended the conversation yet. -/
  isOpen : Bool

namespace Adapter

/-- A conversation in which nothing has been said. -/
def start (session : Session) : Adapter := ⟨session, 0, true⟩

/-- How the adapter reacts to a command. -/
structure Reaction where
  /-- The events that come before the response. -/
  before : List Event
  /-- The response, if the command gets one. -/
  verdict? : Option Verdict
  /-- The events that come after the response. -/
  after : List Event
  session : Session
  /-- Whether further requests are served. -/
  goesOn : Bool

/-- A reaction that consists of a response. -/
def answer (session : Session) (verdict : Verdict) : Reaction := ⟨[], some verdict, [], session, true⟩

/-- The event for a program that waits at a stop or is gone. -/
def announcement : Option StopReason → Event
  | some reason => .stopped reason
  | none => .terminated

/-- The events that tell where the program has come to. -/
def arrival : Except InspectError RunState → List Event
  | .ok (.stopped reason) => [.stopped reason]
  | .ok .exited => [.terminated]
  | .error error => [.output .errors (error.message ++ "\n"), .terminated]

/-- The response to a request that lets the program run. -/
def departure : Resumption → Verdict
  | .onward => .success "continue" (some .running)
  | .over => .success "next" none
  | .into => .success "stepIn" none
  | .out => .success "stepOut" none

/-- The frames of the current stop; without a stop there are none. -/
def stackTrace (session : Session) : Verdict :=
  .success "stackTrace" (some (.frames (match session.frames with
    | .ok frames => frames
    | .error _ => [])))

/-- Reads a frame number; negative ones name no frame. -/
def frameIndex? : Int → Option Nat
  | .ofNat index => some index
  | .negSucc _ => none

/-- Asks for the scopes of a frame. -/
def scopes (session : Session) (frame : Int) : Reaction :=
  match frameIndex? frame with
  | none => answer session (.failure ("invalid frame id " ++ toString frame))
  | some index =>
    match session.scopes index with
    | (.ok scopes, session) => answer session (.success "scopes" (some (.scopes scopes)))
    | (.error error, session) => answer session (.failure error.message)

/-- Asks for variables; a diagnostic is told before the response. -/
def listVariables (session : Session) (reference : Int64) (window : Window) : Reaction :=
  let (outcome, session) := session.listVariables reference window
  { answer session (.success "variables" (some (.listing outcome.descriptors))) with
    before := (outcome.diagnostic.map fun text => Event.output .console (text ++ "\n")).toList }

/-- Asks for the value of an expression; without a valid frame in the first one. -/
def evaluate (session : Session) (expression : String) (frame : Option Int) : Reaction :=
  match session.evaluate ((frame.bind frameIndex?).getD 0) expression with
  | (.ok evaluation, session) =>
    answer session (.success "evaluate" (some (.evaluation evaluation)))
  | (.error error, session) => answer session (.failure error.message)

/-- Lets the program run after the response. -/
def resume (session : Session) (kind : Resumption) : Reaction :=
  let (outcome, session) := session.resume kind
  { answer session (departure kind) with after := arrival outcome }

/-- How the adapter reacts to a command. -/
def react (session : Session) : Command → Reaction
  | .introduce => { answer session (.success "initialize" (some .abilities)) with before := [.ready] }
  | .launch => answer session (.success "launch" none)
  | .configurationDone =>
    { answer session (.success "configurationDone" none) with after := [announcement session.stop] }
  | .threads => answer session (.success "threads" (some .threads))
  | .stackTrace => answer session (stackTrace session)
  | .scopes frame => scopes session frame
  | .listVariables reference start count => listVariables session reference (.ofProtocol start count)
  | .evaluate expression frame => evaluate session expression frame
  | .resume kind => resume session kind
  | .disconnect => { answer session (.success "disconnect" none) with goesOn := false }
  | .terminate => { answer session (.success "terminate" none) with goesOn := false }
  | .acknowledge name => answer session (.success name none)
  | .ignore => ⟨[], none, [], session, true⟩

/-- What is said about a request, in order. -/
def Reaction.contents (reaction : Reaction) (request : Int) : List Content :=
  reaction.before.map .event
    ++ (reaction.verdict?.map fun verdict => Content.response ⟨request, verdict⟩).toList
    ++ reaction.after.map .event

/-- Numbers what is said, from the first number that is free. -/
def number (sent : Nat) : List Content → List Message
  | [] => []
  | content :: rest => ⟨sent + 1, content⟩ :: number (sent + 1) rest

/-- Serves one request. -/
def handle (adapter : Adapter) (request : Request) : List Message × Adapter :=
  let reaction := react adapter.session request.command
  let messages := number adapter.sent (reaction.contents request.number)
  (messages, ⟨reaction.session, adapter.sent + messages.length, reaction.goesOn⟩)

/-- Serves requests until one ends the conversation. -/
def serve (adapter : Adapter) : List Request → List Message × Adapter
  | [] => ([], adapter)
  | request :: rest =>
    if adapter.isOpen then
      let (messages, adapter) := adapter.handle request
      let (further, adapter) := adapter.serve rest
      (messages ++ further, adapter)
    else ([], adapter)

/-- The requests on a stream, up to the first that cannot be read. -/
def requests : List String → List Request
  | [] => []
  | content :: rest =>
    match Request.parse? content with
    | some request => request :: requests rest
    | none => []

/-- Serves the requests on a stream of bytes. -/
def serveBytes (session : Session) (input : List UInt8) : List Message :=
  ((start session).serve (requests (Envelope.contents input))).1

/-- The text of messages on a stream. -/
def stream (messages : List Message) : String :=
  String.join (messages.map fun message => Envelope.wrap message.toJson.compact)

end Adapter

end Inspection
