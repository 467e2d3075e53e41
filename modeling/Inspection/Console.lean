import Inspection.Formatter.Ledger
import Inspection.Formatter.Registry
import Inspection.Text.Blank

/-! The console shows and edits the formatters of a session and always answers with text. -/

namespace Inspection.Console

/-- The character that marks a line as a command. -/
def mark : Char := '\x60'

/-- What can be asked of the console. -/
inductive Command where
  | help
  | list
  | counters
  | sizeCalls
  | delete (name : String)
  | clear
  | reset
  deriving DecidableEq, Repr, Inhabited

/-- Why a line is no command. -/
inductive CommandError where
  | nothingToDelete
  | unknown (line : String)
  deriving DecidableEq, Repr, Inhabited

/-- The wording of a command error. -/
def CommandError.message : CommandError → String
  | nothingToDelete => "usage: formatter delete <name>"
  | unknown line => "unknown command '" ++ line ++ "'; try `help"

/-- A line without its mark and without blanks around it. -/
def content (line : String) : List Char :=
  Text.trimList ((Text.trimList line.toList).dropWhile (· == mark))

/-- The command that a line spells, with or without the leading mark. -/
def parse (line : String) : Except CommandError Command :=
  match (Text.words (content line)).map String.ofList with
  | [] | ["help"] => .ok .help
  | ["formatter", "list"] => .ok .list
  | ["formatter", "counters"] => .ok .counters
  | ["formatter", "size-calls"] => .ok .sizeCalls
  | ["formatter", "delete", name] => .ok (.delete name)
  | ["formatter", "delete"] => .error .nothingToDelete
  | ["formatter", "clear"] => .ok .clear
  | ["formatter", "reset"] => .ok .reset
  | _ => .error (.unknown (String.ofList (content line)))

/-- The commands and what they do, one on each line. -/
def helpText : String := String.intercalate "\n" [
  "formatter list              registered formatters with pattern and capabilities",
  "formatter counters          size and materialize calls per formatter",
  "formatter size-calls        type names whose size was queried",
  "formatter delete <name>     unregister a formatter",
  "formatter clear             unregister every formatter",
  "formatter reset             zero the counters",
  "help                        this text"]

/-- A registration with its pattern and the capabilities it offers for a type of that name. -/
def registrationLine (entry : Registration) : String :=
  -- Capabilities are asked for a type, so one of the name of the pattern is made up.
  let probe : TypeInfo := ⟨entry.pattern.text, .scalar⟩
  entry.name ++ "  " ++ entry.pattern.text ++ "  ["
    ++ (entry.formatter.capabilities probe).text ++ "]"

/-- The counters of one formatter; timeouts are shown only where there were any. -/
def countersLine (entry : String × CallCounts) : String :=
  let counts := entry.2
  entry.1 ++ ": size=" ++ toString counts.size ++ " materialize=" ++ toString counts.child
    ++ (if 0 < counts.timedOut then " timed_out=" ++ toString counts.timedOut else "")

/-- The lines one below the other, or another text where there are none. -/
def linesOr (default : String) (lines : List String) : String :=
  if lines.isEmpty then default else String.intercalate "\n" lines

/-- What a command answers, and the registry and ledger it leaves. -/
structure Effect where
  output : String
  registry : Registry
  ledger : Ledger

/-- Carries out a command. -/
def execute (command : Command) (registry : Registry) (ledger : Ledger) : Effect :=
  match command with
  | .help => ⟨helpText, registry, ledger⟩
  | .list =>
    ⟨linesOr "no formatters registered" (registry.entries.map registrationLine), registry, ledger⟩
  | .counters => ⟨linesOr "no formatter calls" (ledger.tally.map countersLine), registry, ledger⟩
  | .sizeCalls => ⟨ledger.sizeLogText, registry, ledger⟩
  | .delete name =>
    match registry.unregister name with
    | (some entry, registry) =>
      ⟨"deleted formatter '" ++ entry.name ++ "' (" ++ entry.pattern.text ++ ")", registry, ledger⟩
    | (none, registry) => ⟨"no formatter named '" ++ name ++ "'", registry, ledger⟩
  -- The number is that of before the removal.
  | .clear => ⟨"removed " ++ toString registry.size ++ " formatters", registry.clear, ledger⟩
  | .reset => ⟨"counters reset", registry, ledger.reset⟩

/-- Carries out the command a line spells, or says why it spells none. -/
def run (line : String) (registry : Registry) (ledger : Ledger) : Effect :=
  match parse line with
  | .ok command => execute command registry ledger
  | .error error => ⟨error.message, registry, ledger⟩

end Inspection.Console
