import Inspection.Configuration
import Inspection.Toml.Document
import Inspection.Toml.Record

/-! A configuration is read from TOML: what it does not know it skips, what is missing has a default. -/

namespace Inspection

/-- Reads a declaration, which must have a name and a pattern. -/
def Declaration.ofToml? (value : Toml) : Option Declaration := do
  let parts ← value.parts? ["name", "pattern", "regex", "indexed", "named", "size", "summary"]
  match parts.values with
  | [name, pattern, regex, indexed, named, size, summary] =>
    return ⟨← Toml.required Toml.text? name, ← Toml.required Toml.text? pattern,
      ← Toml.orDefault false Toml.truth? regex, ← Toml.orDefault false Toml.truth? indexed,
      ← Toml.orDefault false Toml.truth? named, ← Toml.orNothing Toml.natural? size,
      ← Toml.orNothing Toml.text? summary⟩
  | _ => none

namespace Configuration

/-- Reads the limits of the adapter. -/
def readAdapter? (configuration : Configuration) (value : Toml) : Option Configuration := do
  let parts ← value.parts? ["formatter_timeout_ms", "max_named_children"]
  match parts.values with
  | [timeout, maxNamed] =>
    return { configuration with
      timeout := ← Toml.orDefault standard.timeout Toml.natural? timeout
      maxNamed := ← Toml.orDefault standard.maxNamed Toml.natural? maxNamed }
  | _ => none

/-- Reads which events are logged; a mere list of settings has to say it. -/
def readLogging? (configuration : Configuration) (value : Toml) : Option Configuration := do
  let parts ← value.parts? ["filter"]
  match parts.values, parts.listed with
  | [none], true => none
  | [filter], _ => return { configuration with logFilter? := ← Toml.orNothing Toml.text? filter }
  | _, _ => none

/-- Reads the declared formatters. -/
def readFormatters? (configuration : Configuration) (value : Toml) : Option Configuration := do
  return { configuration with declarations := ← (← value.elements?).mapM Declaration.ofToml? }

/-- Reads a section if it is there. -/
def readSection (read : Configuration → Toml → Option Configuration)
    (configuration : Configuration) : Option Toml → Option Configuration
  | some value => read configuration value
  | none => some configuration

/-- The configuration a text describes. -/
def parse? (text : String) : Option Configuration := do
  let parts ← (← Toml.parse? text).parts? ["adapter", "logging", "formatters"]
  match parts.values with
  | [adapter, logging, formatters] =>
    let configuration ← readSection readAdapter? standard adapter
    let configuration ← readSection readLogging? configuration logging
    readSection readFormatters? configuration formatters
  | _ => none

/-- The configuration of a file, given what the file system says about it. -/
def ofFile (path : String) (content : Except FileError String) :
    Except ConfigurationError Configuration :=
  match content with
  | .error cause => .error (.unreadable path cause)
  | .ok text =>
    match parse? text with
    | some configuration => .ok configuration
    | none => .error (.malformed path)

end Configuration

end Inspection
