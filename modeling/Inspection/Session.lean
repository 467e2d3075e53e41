import Inspection.Children.Enumeration
import Inspection.Classification
import Inspection.Console
import Inspection.Descriptor
import Inspection.Path

/-! A session inspects one stop at a time: what it learns about a stop ends with that stop. -/

namespace Inspection

/-- Why a request to inspect something fails. -/
inductive InspectError where
  | unknownHandle (reference : Int64)
  | unknownVariable (name : String) (frame : Nat)
  | invalidExpression (expression : String)
  | noSuchChild (path key : String)
  | replay (error : ReplayError)
  | formatter (error : FormatterError)
  deriving DecidableEq, Repr

/-- The wording of an inspection error. -/
def InspectError.message : InspectError → String
  | unknownHandle reference =>
    "unknown variablesReference " ++ toString reference.toInt ++ "; handles do not survive a resume"
  | unknownVariable name frame =>
    "no variable named '" ++ name ++ "' in frame " ++ toString frame
  | invalidExpression expression => "invalid expression '" ++ expression ++ "'"
  | noSuchChild path key => "'" ++ path ++ "' has no child " ++ key
  | replay error => error.message
  | formatter error => error.message

/-- The limits a session works under. -/
structure SessionOptions where
  budget : CallBudget
  /-- How many named children one request serves when it asks for all of them. -/
  maxNamed : Nat
  deriving DecidableEq, Repr

/-- A group of variables of a frame. -/
structure Scope where
  name : String
  reference : Int64
  expensive : Bool
  deriving DecidableEq, Repr

/-- The answer to a request for variables. -/
structure VariablesAnswer where
  descriptors : List Descriptor
  /-- Present if the request could not be served as asked. -/
  diagnostic : Option String
  deriving DecidableEq, Repr

/-- The answer to an expression. -/
inductive Evaluation where
  | console (output : String)
  | value (descriptor : Descriptor)
  deriving DecidableEq, Repr

/-- One debug session. -/
structure Session where
  replay : Replay
  registry : Registry
  options : SessionOptions
  ledger : Ledger
  /-- The classifications made at this stop. -/
  known : Classifications
  arena : Arena
  stop : Option StopReason
  /-- Nothing has been handed out since the last stop ended. -/
  fresh : Bool

namespace Session

/-- A session on a replay, at whatever stop it stands. -/
def start (replay : Replay) (registry : Registry) (options : SessionOptions) : Session where
  replay := replay
  registry := registry
  options := options
  ledger := .empty
  known := []
  arena := .empty
  -- A replay that has run out has no stop to inspect.
  stop := match replay.state with
    | .stopped reason => some reason
    | .exited => none
  fresh := true

/-- What formatter calls of this session are made against. -/
def inquiry (session : Session) : Inquiry := ⟨session.replay, session.options.budget⟩

/-- The generation of the references issued now. -/
def generation (session : Session) : UInt32 := session.arena.generation

/-- Forgets everything learned about the stop. -/
def invalidate (session : Session) : Session :=
  -- The formatters and the counters outlive the stop.
  { session with known := [], arena := session.arena.invalidate, fresh := true }

/-- Begins a new stop, forgetting the old one unless that has been done already. -/
def stopped (session : Session) (reason : StopReason) : Session :=
  -- A stop that was announced before need not be forgotten twice.
  let cleared := if session.fresh then session else session.invalidate
  { cleared with stop := some reason }

/-- The program runs: the stop is over. -/
def resumed (session : Session) : Session := { session.invalidate with stop := none }

/-- Lets the program run and begins wherever it stops next. -/
def resume (session : Session) (kind : Resumption) : Except InspectError RunState × Session :=
  -- The stop is over even if the program cannot run.
  let running := session.resumed
  match running.replay.resume kind with
  | .error error => (.error (.replay error), running)
  | .ok (reached, replay) =>
    let moved := { running with replay }
    match reached with
    | .stopped reason => (.ok reached, moved.stopped reason)
    | .exited => (.ok reached, moved)

/-- The frames of the current stop. -/
def frames (session : Session) : Except InspectError (List Frame) :=
  session.replay.frames.mapError .replay

/-- The scopes of a frame: its local variables. -/
def scopes (session : Session) (frame : Nat) : Except InspectError (List Scope) × Session :=
  match session.replay.frames with
  | .error error => (.error (.replay error), session)
  | .ok frames =>
    -- No handle is made for a frame that is not there.
    if frames.any (fun candidate => candidate.index == frame) then
      let (reference, arena) := session.arena.locals frame
      (.ok [⟨"Locals", reference, false⟩], { session with arena, fresh := false })
    else (.error (.replay (.unknownFrame frame)), session)

/-- Classifies a value, at most once in a stop. -/
def classify (session : Session) (value : Value) : Classification × Session :=
  let (classification, known, ledger) :=
    session.known.classify session.registry session.inquiry value session.ledger
  -- Even a classification that was known counts as something handed out.
  (classification, { session with known, ledger, fresh := false })

/-- The summary of a registered formatter; the native one offers none. -/
def summary (session : Session) (classification : Classification) (value : Value) :
    Option String × Session :=
  if classification.provider.isNative then (none, session)
  else
    let (summary, ledger) := session.inquiry.summary classification.provider value session.ledger
    (summary, { session with ledger })

/-- Describes a value, giving it a handle if it can be expanded. -/
def describe (session : Session) (value : Value) : Descriptor × Session :=
  -- The count of children may come from the arena, so the handle is made last.
  let (classification, session) := session.classify value
  let (summary, session) := session.summary classification value
  let (descriptor, arena) := session.arena.describe value classification summary
  (descriptor, { session with arena })

/-- Describes the values of a list one after the other. -/
def describeAll (session : Session) : List Value → List Descriptor × Session
  | [] => ([], session)
  | value :: rest =>
    let (descriptor, session) := session.describe value
    let (descriptors, session) := session.describeAll rest
    (descriptor :: descriptors, session)

/-- Describes the outcomes of an enumeration, with stand-ins for the failed ones. -/
def present (session : Session) : List ChildOutcome → List Descriptor × Session
  | [] => ([], session)
  | .child child :: rest =>
    let (descriptor, session) := session.describe child
    let (descriptors, session) := session.present rest
    (descriptor :: descriptors, session)
  | .failed index error :: rest =>
    let (descriptors, session) := session.present rest
    (.placeholder index error :: descriptors, session)

/-- Whether an outcome is a failure. -/
def isFailure : ChildOutcome → Bool
  | .child _ => false
  | .failed _ _ => true

/-- The formatter that supplies children; where none are declared, the native one does. -/
def childProvider (classification : Classification) : Provider :=
  match classification.kind with
  | .undeclared => .native
  | .indexed _ | .named => classification.provider

/-- Fetches a window of a value's children through its handle. -/
def serve (session : Session) (slot : Nat) (value : Value) (window : Window) :
    List ChildOutcome × Session :=
  -- How children are fetched depends on the kind, so the value is classified first.
  let (classification, session) := session.classify value
  match session.arena.handle? slot with
  | none => ([], session)
  | some handle =>
    let served := handle.enumerate classification.kind (childProvider classification) window
      session.options.maxNamed session.inquiry session.ledger
    (served.answer,
      { session with
        arena := session.arena.setHandle slot served.handle
        ledger := served.ledger })

/-- What is said about the failed children of a value, if there are any. -/
def failureNote (value : Value) (outcomes : List ChildOutcome) : Option String :=
  let failures := outcomes.countP isFailure
  if 0 < failures then
    some (toString failures ++ " requested children of '" ++ value.name ++ "' failed")
  else none

/-- Shows a window of a value's children. -/
def expand (session : Session) (slot : Nat) (value : Value) (window : Window) :
    VariablesAnswer × Session :=
  -- The children are all fetched before the first of them is described.
  let (outcomes, session) := session.serve slot value window
  let (descriptors, session) := session.present outcomes
  (⟨descriptors, failureNote value outcomes⟩, session)

/-- An answer without variables. -/
def refusal (reason : String) : VariablesAnswer := ⟨[], some reason⟩

/-- The place and the target of the handle that a reference leads to. -/
def target? (session : Session) (reference : Int64) : Option (Nat × HandleTarget) := do
  let slot ← session.arena.resolve reference
  let handle ← session.arena.handle? slot
  return (slot, handle.target)

/-- Serves a window of what a reference leads to. -/
def listVariables (session : Session) (reference : Int64) (window : Window) :
    VariablesAnswer × Session :=
  match session.target? reference with
  -- An old reference is answered with a list, though an empty one, and says why.
  | none => (refusal (InspectError.unknownHandle reference).message, session)
  | some (_, .locals frame) =>
    match session.replay.locals frame with
    | .error error => (refusal error.message, session)
    | .ok locals =>
      -- Locals are not remembered by the handle; the replay has them at hand.
      let (descriptors, session) := session.describeAll (window.select locals)
      (⟨descriptors, none⟩, session)
  | some (slot, .value value) => session.expand slot value window

/-- Asks for the child of a value by one key. -/
def follow (session : Session) (value : Value) (key : ChildKey) :
    Except FormatterError (Option Value) × Session :=
  let (classification, session) := session.classify value
  let (answer, ledger) :=
    session.inquiry.child (childProvider classification) value key session.ledger
  (answer, { session with ledger })

/-- Walks from a value to a child by each key; the text is that of the walk so far. -/
def walk (session : Session) (current : Value) (walked : String) :
    List ChildKey → Except InspectError Value × Session
  | [] => (.ok current, session)
  | key :: rest =>
    let (answer, session) := session.follow current key
    match answer with
    | .error error => (.error (.formatter error), session)
    | .ok none => (.error (.noSuchChild walked key.text), session)
    -- What has been walked so far is only kept for the message.
    | .ok (some child) => session.walk child (walked ++ key.segment) rest

/-- Runs a console line. -/
def runConsole (session : Session) (line : String) : String × Session :=
  let effect := Console.run line session.registry session.ledger
  (effect.output, { session with registry := effect.registry, ledger := effect.ledger })

/-- The value that a path leads to from the local variables of a frame. -/
def reach (session : Session) (frame : Nat) (path : Path) :
    Except InspectError Value × Session :=
  match session.replay.locals frame with
  | .error error => (.error (.replay error), session)
  | .ok locals =>
    -- Of variables of one name the first is meant.
    match locals.find? fun candidate => candidate.name == path.root with
    | none => (.error (.unknownVariable path.root frame), session)
    | some start => session.walk start path.root path.keys

/-- Evaluates a path in a frame. -/
def evaluatePath (session : Session) (frame : Nat) (path : Path) :
    Except InspectError Descriptor × Session :=
  match session.reach frame path with
  | (.error error, session) => (.error error, session)
  | (.ok value, session) =>
    -- Only the end of the walk gets a handle.
    let (descriptor, session) := session.describe value
    (.ok descriptor, session)

/-- Evaluates an expression: a console line after the mark, else a path. -/
def evaluate (session : Session) (frame : Nat) (expression : String) :
    Except InspectError Evaluation × Session :=
  let expression := Text.trim expression
  -- The blanks are gone by now, so the mark is the first character if there is one.
  if expression.toList.head? = some Console.mark then
    let (output, session) := session.runConsole expression
    (.ok (.console output), session)
  else
    match Path.parse? expression with
    | none => (.error (.invalidExpression expression), session)
    | some path =>
      let (answer, session) := session.evaluatePath frame path
      (answer.map .value, session)

end Session

end Inspection
