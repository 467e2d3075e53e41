import Inspection.Files
import Inspection.Recording

/-! A replay stands at one stop of a recording and moves only forward. -/

namespace Inspection

/-- Why the stopped program cannot answer. -/
inductive ReplayError where
  | notStopped
  | unknownFrame (frame : Nat)
  | unknownValue (id : ValueId)
  /-- The recording cannot be used as asked. -/
  | unusable (reason : String)
  /-- The recording could not be read. -/
  | unreadable (cause : FileError)
  /-- The text is no recording. -/
  | malformed
  deriving DecidableEq, Repr, Inhabited

/-- The wording of a replay error. -/
def ReplayError.message : ReplayError → String
  | notStopped => "debuggee is not stopped"
  | unknownFrame frame => "unknown frame: " ++ toString frame
  | unknownValue id => "unknown value: " ++ id.text
  | unusable reason => "invalid snapshot: " ++ reason
  | unreadable cause => cause.message
  | malformed => ""

/-- The program either waits at a stop or is gone. -/
inductive RunState where
  | stopped (reason : StopReason)
  | exited
  deriving DecidableEq, Repr, Inhabited

/-- The ways to let the program run on; a recording answers all of them alike. -/
inductive Resumption where
  | onward
  | over
  | into
  | out
  deriving DecidableEq, Repr, Inhabited

/-- A stack frame as the stopped program reports it. -/
structure Frame where
  index : Nat
  name : String
  deriving DecidableEq, Repr, Inhabited

/-- A recording together with the stop being looked at; past the last stop the program is gone. -/
structure Replay where
  stops : List RecordedStop
  cursor : Nat
  deriving Repr, Inhabited

namespace Replay

/-- A replay begins at the first stop. -/
def start (recording : Recording) : Replay := ⟨recording.stops, 0⟩

/-- A recording without stops cannot be replayed. -/
def open? (recording : Recording) : Except ReplayError Replay :=
  if recording.stops.isEmpty then .error (.unusable "no recorded stops") else .ok (start recording)

/-- The stop being looked at. -/
def current (replay : Replay) : Except ReplayError RecordedStop :=
  match replay.stops[replay.cursor]? with
  | some stop => .ok stop
  | none => .error .notStopped

/-- Whether the program waits, and why. -/
def state (replay : Replay) : RunState :=
  match replay.stops[replay.cursor]? with
  | some stop => .stopped stop.reason
  | none => .exited

/-- Jumps to a recorded stop by its number. -/
def seek (replay : Replay) (stop : Nat) : Except ReplayError Replay :=
  if stop < replay.stops.length then .ok { replay with cursor := stop }
  else .error (.unusable ("stop " ++ toString stop ++ " out of range ("
    ++ toString replay.stops.length ++ " recorded)"))

/-- The frames of the current stop, numbered from the most recent. -/
def frames (replay : Replay) : Except ReplayError (List Frame) := do
  let stop ← replay.current
  return stop.frames.mapIdx fun index frame => ⟨index, frame.name⟩

/-- The local variables of a frame of the current stop. -/
def locals (replay : Replay) (frame : Nat) : Except ReplayError (List Value) := do
  let stop ← replay.current
  -- Frames are numbered by their place in the stop.
  match stop.locals? frame with
  | some values => return values
  | none => throw (.unknownFrame frame)

/-- The recorded value that an identity denotes at the current stop. -/
def node (replay : Replay) (id : ValueId) : Except ReplayError RecordedValue := do
  let stop ← replay.current
  -- An identity made outside the recording denotes nothing here.
  match stop.find? id with
  | some node => return node
  | none => throw (.unknownValue id)

/-- The number of children recorded for a value. -/
def childCount (replay : Replay) (value : Value) : Except ReplayError Nat := do
  return (← replay.node value.id).offspring.length

/-- One recorded child; none past the end or for a name that no child carries. -/
def child (replay : Replay) (value : Value) (key : ChildKey) :
    Except ReplayError (Option Value) := do
  let children := (← replay.node value.id).offspring
  -- A member is the first child of that name; its identity still goes by position.
  let index? := match key with
    | .position index => some index
    | .member name => children.findIdx? (fun node => node.name == name)
  return do
    let index ← index?
    let node ← children[index]?
    return node.toValue (.child (.position index) value.id)

/-- Lets the program run to its next stop, or to its end after the last one. -/
def resume (replay : Replay) (_ : Resumption) : Except ReplayError (RunState × Replay) := do
  -- A program that is gone cannot run on.
  let _ ← replay.current
  let moved := { replay with cursor := replay.cursor + 1 }
  return (moved.state, moved)

end Replay

end Inspection
