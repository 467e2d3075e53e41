import Inspection.CommandLine.Arguments
import Inspection.Configuration.Reader
import Inspection.Location
import Inspection.Recording.Reader
import Inspection.Report

/-! A run reads the configuration first and the recording second; the first failure ends it. -/

namespace Inspection.CommandLine

/-- How a run ends. -/
structure Outcome where
  code : Nat
  output : String
  errors : String
  deriving DecidableEq, Repr

/-- What comes of the arguments. -/
inductive Result where
  /-- The arguments make no sense. -/
  | misused
  | finished (outcome : Outcome)
  /-- A session is to be served to a client. -/
  | serving (session : Session)

/-- A text in red. -/
def red (text : String) : String := "\x1b[31m" ++ text ++ "\x1b[0m"

/-- An error that ends a run. -/
def failure (code : Nat) (title message : String) : Outcome :=
  ⟨code, "", red title ++ " " ++ message ++ "\n"⟩

/-- A configuration that cannot be used ends a run. -/
def configurationFailure (error : ConfigurationError) : Outcome :=
  failure 2 "config error:" error.message

/-- Any other error ends a run as well. -/
def runFailure (message : String) : Outcome := failure 1 "error:" message

/-- The configuration file in a directory or the nearest one that contains it. -/
def nearest [Monad m] (files : Files m) : List String → m (Option String)
  | [] => pure none
  | directory :: rest => do
    let candidate := Location.join directory Configuration.fileName
    if ← files.isFile candidate then return some candidate else nearest files rest

/-- The configuration file for a directory. -/
def findConfiguration [Monad m] (files : Files m) (directory : String) : m (Option String) :=
  nearest files (Location.ancestors directory)

/-- The configuration in a file. -/
def configurationIn [Monad m] (files : Files m) (path : String) :
    m (Except ConfigurationError Configuration) := do
  return Configuration.ofFile path (← files.read path)

/-- The configuration of a run: in the file it names, else in the nearest file, else the standard. -/
def loadConfiguration [Monad m] (files : Files m) (path? : Option String) :
    m (Except ConfigurationError Configuration) := do
  match path? with
  | some path => configurationIn files path
  | none =>
    match ← files.workingDirectory with
    | .error cause => return .error (.unreadable "." cause)
    | .ok directory =>
      match ← findConfiguration files directory with
      | some path => configurationIn files path
      | none => return .ok .standard

/-- The replay of a recorded text. -/
def replayOf (content : Except FileError String) : Except ReplayError Replay :=
  match content with
  | .error cause => .error (.unreadable cause)
  | .ok text =>
    match Recording.parse? text with
    | none => .error .malformed
    | some recording => Replay.open? recording

/-- A session at a stop of the recording in a file. -/
def openSession (path : String) (content : Except FileError String)
    (configuration : Configuration) (stop : Nat) : Except Outcome Session :=
  match (do (← replayOf content).seek stop) with
  | .error error => .error (runFailure ("cannot load '" ++ path ++ "': " ++ error.message))
  | .ok replay =>
    match configuration.registry with
    | .error error => .error (configurationFailure error)
    | .ok registry => .ok (.start replay registry configuration.options)

/-- Prints the report on a frame. -/
def inspect (session : Session) (stop frame : Nat) : Outcome :=
  match Report.ofFrame session stop frame with
  | .error error => runFailure error.message
  | .ok (report, diagnostic?) =>
    ⟨0, report.toJson.pretty 0 ++ "\n", (diagnostic?.map (· ++ "\n")).getD ""⟩

/-- Loads the configuration and the recording of a run and goes on with their session. -/
def withSession [Monad m] (files : Files m) (recording : String) (configuration? : Option String)
    (stop : Nat) (act : Session → Result) : m Result := do
  match ← loadConfiguration files configuration? with
  | .error error => return .finished (configurationFailure error)
  | .ok configuration =>
    match openSession recording (← files.read recording) configuration stop with
    | .error outcome => return .finished outcome
    | .ok session => return act session

/-- Writes a configuration file, unless there is something of its name. -/
def create [Monad m] (files : Files m) : m Outcome := do
  let name := Configuration.fileName
  if ← files.isPresent name then
    return runFailure (name ++ " already exists, not overwriting")
  else
    match ← files.write name Configuration.template with
    | .ok _ => return ⟨0, "created " ++ name ++ "\n", ""⟩
    | .error cause => return runFailure ("writing " ++ name ++ ": " ++ cause.message)

/-- Carries out a command. -/
def perform [Monad m] (files : Files m) : Command → m Result
  | .serve recording configuration? =>
    withSession files recording configuration? 0 .serving
  | .inspect recording configuration? frame stop =>
    withSession files recording configuration? stop fun session =>
      .finished (inspect session stop frame)
  | .create => do return .finished (← create files)

/-- Runs the program on its arguments. -/
def run [Monad m] (files : Files m) (arguments : List String) : m Result :=
  match read? arguments with
  | none => pure .misused
  | some (.help topic) => pure (.finished ⟨0, topic.usage, ""⟩)
  | some .version => pure (.finished ⟨0, version, ""⟩)
  | some (.run command) => perform files command

end Inspection.CommandLine
