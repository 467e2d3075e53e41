import Inspection.CommandLine.Usage
import Inspection.Text.Decimal

/-! Arguments are read from left to right; the first that cannot stand where it stands refuses all. -/

namespace Inspection.CommandLine

/-- What the program is to do. -/
inductive Command where
  | serve (recording : String) (configuration : Option String)
  | inspect (recording : String) (configuration : Option String) (frame stop : Nat)
  | create
  deriving DecidableEq, Repr

/-- What the program is asked for: work, or a text about itself. -/
inductive Invocation where
  | run (command : Command)
  | help (topic : Topic)
  | version
  deriving DecidableEq, Repr

/-- The arguments of one command found so far. -/
structure Found where
  recording : Option String
  configuration : Option String
  frame : Option Nat
  stop : Option Nat

/-- Nothing has been found. -/
def Found.nothing : Found := ⟨none, none, none, none⟩

/-- An option of a command, which takes a value. -/
inductive Setting where
  | configuration
  | frame
  | stop
  deriving DecidableEq, Repr

/-- The spelling of an option behind its two dashes. -/
def Setting.name : Setting → String
  | configuration => "config"
  | frame => "frame"
  | stop => "stop"

/-- The options of the command that a topic is about. -/
def Topic.settings : Topic → List Setting
  | serve => [.configuration]
  | inspect => [.configuration, .frame, .stop]
  | program | create | help => []

/-- Whether the command that a topic is about works on a recording. -/
def Topic.takesRecording : Topic → Bool
  | serve | inspect => true
  | program | create | help => false

namespace Found

/-- Fills a place that is still free. -/
def fill (place : Option α) (value : α) : Option (Option α) :=
  match place with
  | none => some (some value)
  | some _ => none

/-- The value of an option that names a file. -/
def fileName? (value : String) : Option String := if value.isEmpty then none else some value

/-- Sets an option, each at most once and to a value that it can take. -/
def set (found : Found) (value : String) : Setting → Option Found
  | .configuration => do
    return { found with configuration := ← fill found.configuration (← fileName? value) }
  | .frame => do
    return { found with frame := ← fill found.frame (← Text.natural64? value.toList) }
  | .stop => do
    return { found with stop := ← fill found.stop (← Text.natural64? value.toList) }

/-- Adds an argument that is no option. -/
def add (found : Found) (topic : Topic) (value : String) : Option Found :=
  if topic.takesRecording then do
    return { found with recording := ← fill found.recording (← fileName? value) }
  else none

/-- The command, once all arguments have been found. -/
def command? (found : Found) : Topic → Option Command
  | .serve => do return .serve (← found.recording) found.configuration
  | .inspect => do
    return .inspect (← found.recording) found.configuration (found.frame.getD 0)
      (found.stop.getD 0)
  | .create => some .create
  | .program | .help => none

end Found

/-- How an argument is written. -/
inductive Argument where
  | plain (value : String)
  /-- Two dashes alone: only plain arguments follow. -/
  | divider
  /-- Two dashes before a name, with a value behind an equals sign if there is one. -/
  | long (name : String) (attached : Option String)
  /-- One dash before letters. -/
  | short (first : Char)

/-- Tells how an argument is written; a dash alone is plain. -/
def Argument.of (argument : String) : Argument :=
  match argument.toList with
  | ['-', '-'] => .divider
  | '-' :: '-' :: letters =>
    .long (String.ofList (letters.takeWhile (· != '=')))
      (match letters.dropWhile (· != '=') with
        | [] => none
        | _ :: value => some (String.ofList value))
  | '-' :: first :: _ => .short first
  | _ => .plain argument

/-- The option of a name among those of a topic. -/
def settingOf? (topic : Topic) (name : String) : Option Setting :=
  topic.settings.find? fun setting => setting.name == name

/-- Reads the arguments of a command; a pending option takes the next one, which must be plain. -/
def readArguments (topic : Topic) (pending : Option Setting) (found : Found) :
    List String → Option Invocation
  | [] => if pending.isSome then none else (found.command? topic).map .run
  | argument :: rest =>
    match Argument.of argument, pending with
    | .plain value, some setting =>
      (found.set value setting).bind fun found => readArguments topic none found rest
    | .plain value, none =>
      (found.add topic value).bind fun found => readArguments topic none found rest
    | .divider, none => do
      let found ← rest.foldlM (fun found value => found.add topic value) found
      return .run (← found.command? topic)
    | .short first, none => if first = 'h' then some (.help topic) else none
    | .long "help" none, none => some (.help topic)
    | .long name none, none =>
      (settingOf? topic name).bind fun setting => readArguments topic (some setting) found rest
    | .long name (some value), none =>
      (settingOf? topic name).bind fun setting =>
        (found.set value setting).bind fun found => readArguments topic none found rest
    | .divider, some _ | .short _, some _ | .long _ _, some _ => none

/-- The command of a name. -/
def topicOf? : String → Option Topic
  | "dap" => some .serve
  | "inspect" => some .inspect
  | "init" => some .create
  | _ => none

/-- Reads all arguments of the program; nothing comes of them if they make no sense. -/
def read? : List String → Option Invocation
  | [] => none
  | "help" :: [] => some (.help .program)
  | "help" :: ["help"] => some (.help .help)
  | "help" :: [name] => (topicOf? name).map .help
  | "help" :: _ => none
  | argument :: rest =>
    match Argument.of argument with
    | .plain name => do readArguments (← topicOf? name) none .nothing rest
    | .long "help" none => some (.help .program)
    | .long "version" none => some .version
    | .short 'h' => some (.help .program)
    | .short 'V' => some .version
    | .divider | .long _ _ | .short _ => none

end Inspection.CommandLine
