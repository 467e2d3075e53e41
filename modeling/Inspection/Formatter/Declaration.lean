import Inspection.Formatter.Native
import Inspection.Text.Substitution

/-! A declared formatter has fixed capabilities and takes its children from the stopped program. -/

namespace Inspection

/-- A formatter as a configuration declares it. -/
structure Declaration where
  name : String
  pattern : String
  /-- The pattern is a regular expression, not a type name. -/
  regex : Bool
  indexed : Bool
  named : Bool
  /-- A fixed size; without it the recorded children are counted. -/
  size : Option Nat
  /-- A summary text in which a mark stands for the value's own rendering. -/
  summary : Option String
  deriving DecidableEq, Repr, Inhabited

namespace Declaration

/-- A declaration with every optional part left out. -/
def plain (name pattern : String) : Declaration :=
  ⟨name, pattern, false, false, false, none, none⟩

/-- Indexed access is declared together with a cheap size. -/
def capabilities (declaration : Declaration) : Capabilities :=
  ⟨declaration.indexed, declaration.indexed, declaration.named⟩

/-- The mark in a summary text that the value's own rendering replaces. -/
def summaryMark : String := "\x7bvalue\x7d"

/-- The declared summary of a value. -/
def summaryOf (declaration : Declaration) (value : Value) : Option String :=
  declaration.summary.map fun template => Text.substitute summaryMark value.summary template

/-- The declared size, else the number of recorded children. -/
def sizeOf (declaration : Declaration) (replay : Replay) (value : Value) :
    Except FormatterError Nat :=
  match declaration.size with
  | some size => .ok size
  | none => (replay.childCount value).mapError fun error => .size error.message

/-- A recorded child; a position at or past a declared size has none. -/
def childOf (declaration : Declaration) (replay : Replay) (value : Value) (key : ChildKey) :
    Except FormatterError (Option Value) :=
  match declaration.size, key with
  | some size, .position index =>
    if size ≤ index then .ok none else nativeChild replay value key
  | _, _ => nativeChild replay value key

/-- The formatter that a declaration describes. -/
def formatter (declaration : Declaration) : Formatter where
  capabilities _ := declaration.capabilities
  summary _ _ value := .returns (declaration.summaryOf value)
  size _ replay value := .returns (declaration.sizeOf replay value)
  child _ replay value key := .returns (declaration.childOf replay value key)

end Declaration

end Inspection
