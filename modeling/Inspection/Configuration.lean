import Inspection.Formatter.Registry
import Inspection.Session

/-! A configuration holds the limits of a session and the formatters it declares, in file order. -/

namespace Inspection

/-- Why there is no configuration to work with. -/
inductive ConfigurationError where
  | unreadable (path : String) (cause : FileError)
  | malformed (path : String)
  | invalidPattern (formatter : String)
  | unnamedFormatter (entry : Nat)
  deriving DecidableEq, Repr

/-- The wording of a configuration error. -/
def ConfigurationError.message : ConfigurationError → String
  | unreadable path cause => "cannot read '" ++ path ++ "': " ++ cause.message
  | malformed path => "invalid toml in '" ++ path ++ "': "
  | invalidPattern formatter => "formatter '" ++ formatter ++ "' has an invalid pattern: "
  | unnamedFormatter entry => "formatter entry " ++ toString entry ++ " has no name"

/-- What a configuration file settles. -/
structure Configuration where
  /-- The milliseconds one formatter call may take; zero means no limit. -/
  timeout : Nat := 500
  /-- How many named children one request serves when it asks for all of them. -/
  maxNamed : Nat := 1000
  /-- Which events are logged, if the file says so. -/
  logFilter? : Option String := none
  declarations : List Declaration := []
  deriving DecidableEq, Repr

namespace Configuration

/-- What holds without a configuration file. -/
def standard : Configuration := {}

/-- The name of configuration files. -/
def fileName : String := "varlens.toml"

/-- Which events are logged. -/
def logFilter (configuration : Configuration) : String :=
  configuration.logFilter?.getD "varlens=info"

/-- The limits of a session. -/
def options (configuration : Configuration) : SessionOptions :=
  ⟨.ofMilliseconds configuration.timeout, configuration.maxNamed⟩

/-- The registration of a declaration, which must be named and have a valid pattern. -/
def registration (entry : Nat) (declaration : Declaration) :
    Except ConfigurationError Registration :=
  if Text.isBlankText declaration.name then .error (.unnamedFormatter entry)
  else
    match declaration.registration? with
    | some registration => .ok registration
    | none => .error (.invalidPattern declaration.name)

/-- Registers declarations one after the other, counting the entries from a start. -/
def registerFrom (entry : Nat) (registry : Registry) :
    List Declaration → Except ConfigurationError Registry
  | [] => .ok registry
  | declaration :: rest => do
    let registration ← registration entry declaration
    registerFrom (entry + 1) (registry.register registration).2 rest

/-- The registry of all declared formatters. -/
def registry (configuration : Configuration) : Except ConfigurationError Registry :=
  registerFrom 0 .empty configuration.declarations

/-- A file to start a configuration from. -/
def template : String :=
  "# Varlens configuration

[adapter]
# Per-call formatter timeout in milliseconds (0 disables).
formatter_timeout_ms = 500
# Upper bound for enumerating a value's named children in one request.
max_named_children = 1000

[logging]
filter = \"varlens=info\"

# Formatters are matched by exact type name first, then by regex, in the
# order they appear here.
#
# [[formatters]]
# name = \"VecFormatter\"
# pattern = \"^std::vec::Vec<.+>$\"
# regex = true
# indexed = true
# summary = \"vec \x7bvalue\x7d\"
"

end Configuration

end Inspection
