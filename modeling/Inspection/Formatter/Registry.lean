import Inspection.Formatter.Declaration
import Inspection.Regex

/-! The registry prefers exact type names to expressions and earlier entries to later ones. -/

namespace Inspection

/-- Which type names a formatter is registered for. -/
inductive TypePattern where
  | exact (name : String)
  /-- Every name in which the expression matches somewhere. -/
  | regex (expression : Regex)

namespace TypePattern

/-- Whether a pattern covers a type name. -/
def covers (pattern : TypePattern) (typeName : String) : Bool :=
  match pattern with
  | exact name => name == typeName
  | regex expression => expression.isMatch typeName

/-- Whether a pattern is a plain type name. -/
def isExact : TypePattern → Bool
  | exact _ => true
  | regex _ => false

/-- Expressions are written between slashes. -/
def text : TypePattern → String
  | exact name => name
  | regex expression => "/" ++ expression.source ++ "/"

end TypePattern

/-- The pattern that a declaration asks for, if it is well formed. -/
def Declaration.typePattern? (declaration : Declaration) : Option TypePattern :=
  if declaration.regex then (Regex.compile? declaration.pattern).map .regex
  else some (.exact declaration.pattern)

/-- A formatter registered under a name. -/
structure Registration where
  name : String
  pattern : TypePattern
  formatter : Formatter

/-- The registration that a declaration asks for, if its pattern is well formed. -/
def Declaration.registration? (declaration : Declaration) : Option Registration :=
  declaration.typePattern?.map fun pattern => ⟨declaration.name, pattern, declaration.formatter⟩

/-- The registered formatters in order of priority. -/
structure Registry where
  entries : List Registration

namespace Registry

/-- No formatter registered. -/
def empty : Registry := ⟨[]⟩

/-- The registration of a name. -/
def find? (registry : Registry) (name : String) : Option Registration :=
  registry.entries.find? fun entry => entry.name == name

/-- Puts a registration in the place of the one with its name, or at the end. -/
def place (registration : Registration) : List Registration → List Registration
  | [] => [registration]
  | entry :: rest =>
    -- The new registration takes over the priority of the one it replaces.
    if entry.name == registration.name then registration :: rest
    else entry :: place registration rest

/-- Registers a formatter, giving back the registration it replaces. -/
def register (registry : Registry) (registration : Registration) :
    Option Registration × Registry :=
  (registry.find? registration.name, ⟨place registration registry.entries⟩)

/-- Removes the registration of a name and gives it back. -/
def unregister (registry : Registry) (name : String) : Option Registration × Registry :=
  (registry.find? name, ⟨registry.entries.eraseP fun entry => entry.name == name⟩)

/-- Removes every registration. -/
def clear (_ : Registry) : Registry := empty

/-- The number of registrations. -/
def size (registry : Registry) : Nat := registry.entries.length

/-- Whether nothing is registered. -/
def isEmpty (registry : Registry) : Bool := registry.entries.isEmpty

/-- The registration for a type: an exact name first, else an expression. -/
def lookup (registry : Registry) (typeName : String) : Option Registration :=
  let exact := registry.entries.find? fun entry =>
    entry.pattern.isExact && entry.pattern.covers typeName
  -- Among expressions the earliest registration wins.
  exact.or (registry.entries.find? fun entry =>
    !entry.pattern.isExact && entry.pattern.covers typeName)

/-- The formatter to use for a type. -/
def resolve (registry : Registry) (typeName : String) : Provider :=
  match registry.lookup typeName with
  | some entry => ⟨.user entry.name, entry.formatter⟩
  | none => .native

end Registry

end Inspection
