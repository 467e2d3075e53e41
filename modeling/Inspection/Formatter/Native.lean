import Inspection.Formatter

/-! The native presentation shows records and pointers by name and arrays by position. -/

namespace Inspection

/-- What a shape alone offers. -/
def TypeShape.capabilities : TypeShape → Capabilities
  | scalar => .nothing
  | pointer | record _ => .byName
  | array _ => .byPosition

/-- The size of a value: an array's length is part of its type, else the children are counted. -/
def nativeSize (replay : Replay) (value : Value) : Except FormatterError Nat :=
  match value.type.shape with
  -- No question to the program is needed here, so none can fail.
  | .array length => .ok length
  | .scalar | .pointer | .record _ =>
    (replay.childCount value).mapError fun error => .size error.message

/-- A child as the stopped program reports it. -/
def nativeChild (replay : Replay) (value : Value) (key : ChildKey) :
    Except FormatterError (Option Value) :=
  (replay.child value key).mapError fun error => .child key.text error.message

/-- The formatter for types that no registration covers. -/
def Formatter.native : Formatter where
  capabilities type := type.shape.capabilities
  summary _ _ _ := .returns none
  size _ replay value := .returns (nativeSize replay value)
  child _ replay value key := .returns (nativeChild replay value key)

/-- The native formatter as the provider of last resort. -/
def Provider.native : Provider := ⟨.native, .native⟩

end Inspection
