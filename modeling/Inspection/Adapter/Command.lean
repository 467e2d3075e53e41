import Inspection.Adapter.Shape
import Inspection.Replay

/-! Commands are told apart by name; a command whose arguments have the wrong shape is none at all. -/

namespace Inspection.Adapter

/-- What a client may ask for. -/
inductive Command where
  /-- The client introduces itself. -/
  | introduce
  | launch
  | configurationDone
  | threads
  | stackTrace
  | scopes (frame : Int)
  | listVariables (reference : Int64) (start count : Option Int)
  | evaluate (expression : String) (frame : Option Int)
  | resume (kind : Resumption)
  | disconnect
  | terminate
  /-- Does nothing, and is answered under the given name. -/
  | acknowledge (name : String)
  /-- Does nothing and is not answered. -/
  | ignore
  deriving DecidableEq, Repr

namespace Command

/-- The thread that a command concerns. -/
def thread : Part := .required "threadId" .integer

/-- Whether only that thread is to run. -/
def singleThread : Part := .optional "singleThread" .truth

/-- How far a step goes. -/
def granularity : Part := .optional "granularity" (.word ["statement", "line", "instruction"])

/-- The frame that a command concerns. -/
def frame : Part := .required "frameId" .integer

/-- How values are to be written. -/
def format : Part := .optional "format" (.record [.optional "hex" .truth])

/-- A condition on a breakpoint. -/
def conditions : List Part := [.optional "condition" .text, .optional "hitCondition" .text]

/-- A breakpoint in a source text; its parts are spelled with underscores. -/
def sourceBreakpoint : Shape := .record [.required "line" .integer, .optional "column" .integer,
  .optional "condition" .text, .optional "hit_condition" .text, .optional "log_message" .text]

/-- What tells whether a source text has changed. -/
def checksum : Shape := .record [
  .required "algorithm" (.word ["MD5", "SHA1", "SHA256", "timestamp"]),
  .required "checksum" .text]

/-- A source text, made of others down to some depth; its parts are spelled with underscores. -/
def sourceTo : Nat → Shape
  | 0 => .anything
  | depth + 1 => .record [.optional "name" .text, .optional "path" .text,
    .optional "source_reference" .shortInteger,
    .optional "presentation_hint" (.word ["normal", "emphasize", "deEmphasize"]),
    .optional "origin" .text, .optional "sources" (.list (sourceTo depth)),
    .optional "adapter_data" .anything, .optional "checksums" (.list checksum)]

/-- A source text; no value is nested more deeply than this one may be. -/
def source : Shape := sourceTo Json.nestingLimit

/-- How a program was launched. -/
def launchParts : List Part := [.optional "noDebug" .truth, .optional "__restart" .anything]

/-- The arguments of the commands that take any as a record. -/
def argumentTable : List (String × List Part) := [
  ("initialize", [.optional "clientID" .text, .optional "clientName" .text,
    .required "adapterID" .text, .optional "locale" .text, .optional "linesStartAt1" .truth,
    .optional "columnsStartAt1" .truth,
    .optional "pathFormat" (.either .text (.word ["path", "uri"])),
    .optional "supportsVariableType" .truth, .optional "supportsVariablePaging" .truth,
    .optional "supportsRunInTerminalRequest" .truth, .optional "supportsMemoryReferences" .truth,
    .optional "supportsProgressReporting" .truth, .optional "supportsInvalidatedEvent" .truth,
    .optional "supportsMemoryEvent" .truth,
    .optional "supportsArgsCanBeInterpretedByShell" .truth,
    .optional "supportsStartDebuggingRequest" .truth]),
  ("restart", [.optional "arguments" (.openRecord launchParts)]),
  ("disconnect", [.optional "restart" .truth, .optional "terminateDebuggee" .truth,
    .optional "suspendDebuggee" .truth]),
  ("terminate", [.optional "restart" .truth]),
  ("terminateThreads", [.optional "threadIds" (.list .integer)]),
  ("cancel", [.optional "requestId" .integer, .optional "progressId" .text]),
  ("modules", [.optional "startModule" .integer, .optional "moduleCount" .integer]),
  ("stackTrace", [thread, .optional "startFrame" .integer, .optional "levels" .integer,
    .optional "format" (.record [.optional "parameters" .truth, .optional "parameterTypes" .truth,
      .optional "parameterNames" .truth, .optional "parameterValues" .truth,
      .optional "line" .truth, .optional "module" .truth, .optional "includeAll" .truth])]),
  ("continue", [thread, singleThread]),
  ("next", [thread, singleThread, granularity]),
  ("stepIn", [thread, singleThread, .optional "targetId" .integer, granularity]),
  ("stepOut", [thread, singleThread, granularity]),
  ("stepBack", [thread, singleThread, granularity]),
  ("reverseContinue", [thread, singleThread]),
  ("pause", [thread]),
  ("exceptionInfo", [thread]),
  ("goto", [thread, .required "targetId" .integer]),
  ("scopes", [frame]),
  ("restartFrame", [frame]),
  ("stepInTargets", [frame]),
  ("variables", [.required "variablesReference" .integer,
    .optional "filter" (.word ["indexed", "named"]), .optional "start" .integer,
    .optional "count" .integer, format]),
  ("setVariable", [.required "variablesReference" .integer, .required "name" .text,
    .required "value" .text, format]),
  ("evaluate", [.required "expression" .text, .optional "frameId" .integer,
    .optional "context"
      (.either .text (.word ["variables", "watch", "repl", "hover", "clipboard"])), format]),
  ("setExpression", [.required "expression" .text, .required "value" .text,
    .optional "frameId" .integer, format]),
  ("completions", [.optional "frameId" .integer, .required "text" .text,
    .required "column" .integer, .optional "line" .integer]),
  ("source", [.optional "source" source, .required "sourceReference" .integer]),
  ("gotoTargets", [.required "source" source, .required "line" .integer,
    .optional "column" .integer]),
  ("breakpointLocations", [.required "source" source, .required "line" .integer,
    .optional "column" .integer, .optional "endLine" .integer, .optional "endColumn" .integer]),
  ("setBreakpoints", [.required "source" source,
    .optional "breakpoints" (.list sourceBreakpoint), .optional "lines" (.list .integer), .optional "sourceModified" .truth]),
  ("setFunctionBreakpoints",
    [.required "breakpoints" (.list (.record (.required "name" .text :: conditions)))]),
  ("setDataBreakpoints", [.required "breakpoints" (.list (.record ([.required "dataId" .text,
    .optional "accessType" (.word ["read", "write", "readWrite"])] ++ conditions)))]),
  ("setInstructionBreakpoints",
    [.required "breakpoints" (.list (.record ([.required "instructionReference" .text,
      .optional "offset" .integer] ++ conditions)))]),
  ("setExceptionBreakpoints", [.required "filters" (.list .text),
    .optional "filterOptions" (.list (.record [.required "filterId" .text,
      .optional "condition" .text])),
    .optional "exceptionOptions" (.list (.record [
      .optional "path" (.list (.record [.optional "negate" .truth,
        .required "names" (.list .text)])),
      .required "breakMode" (.word ["never", "always", "unhandled", "userUnhandled"])]))]),
  ("dataBreakpointInfo", [.optional "variablesReference" .integer, .required "name" .text,
    .optional "frameId" .integer]),
  ("readMemory", [.required "memoryReference" .text, .optional "offset" .integer,
    .required "count" .integer]),
  ("writeMemory", [.required "memoryReference" .text, .optional "offset" .integer,
    .optional "allowPartial" .truth, .required "data" .text]),
  ("disassemble", [.required "memoryReference" .text, .optional "offset" .integer,
    .optional "instructionOffset" .integer, .required "instructionCount" .integer,
    .optional "resolveSymbols" .truth])]

/-- The shape of a command's arguments, if it takes any. -/
def argumentShape? (name : String) : Option Shape :=
  match name with
  | "launch" => some (.openRecord launchParts)
  | "attach" => some (.openRecord [.optional "__restart" .anything])
  | _ => (argumentTable.lookup name).map .record

/-- The commands that are acknowledged without any effect. -/
def acknowledged : List String :=
  ["attach", "pause", "restartFrame", "reverseContinue", "stepBack", "goto", "terminateThreads"]

/-- The command of a name, given how its arguments are looked up; those left are not answered. -/
def ofArguments (name : String) (argument : String → Option Json) : Command :=
  let integer (part : String) : Option Int := (argument part).bind Json.integer64?
  match name with
  | "initialize" => .introduce
  | "launch" => .launch
  | "stackTrace" => .stackTrace
  | "scopes" => .scopes ((integer "frameId").getD 0)
  | "variables" =>
    .listVariables (Int64.ofInt ((integer "variablesReference").getD 0)) (integer "start")
      (integer "count")
  | "evaluate" =>
    .evaluate (((argument "expression").bind Json.text?).getD "") (integer "frameId")
  | "continue" => .resume .onward
  | "next" => .resume .over
  | "stepIn" => .resume .into
  | "stepOut" => .resume .out
  | "disconnect" => .disconnect
  | "terminate" => .terminate
  -- A restart is answered like a step.
  | "restart" => .acknowledge "next"
  | _ => if name ∈ acknowledged then .acknowledge name else .ignore

/-- Reads a command; those without arguments admit none but null. -/
def read? (name : String) (arguments : Option Json) : Option Command :=
  let bare? : Option Command := match name with
    | "configurationDone" => some .configurationDone
    | "threads" => some .threads
    | "loadedSources" => some .ignore
    | _ => none
  match bare?, arguments with
  | some command, none | some command, some .null => some command
  | some _, some _ | none, none => none
  | none, some value => do
    if (← argumentShape? name).accepts value then
      return ofArguments name fun part => partOf? ((argumentTable.lookup name).getD []) part value
    else none

end Command

end Inspection.Adapter
