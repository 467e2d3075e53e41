import Inspection.Text.Decimal

/-! JSON values keep what a strict reader may later refuse: spelled numbers and broken escapes. -/

namespace Inspection

/-- A JSON value; texts with an unpaired surrogate escape have no characters. -/
inductive Json where
  | null
  | bool (truth : Bool)
  /-- A number as it is spelled. -/
  | number (spelling : String)
  | string (text? : Option String)
  | array (elements : List Json)
  /-- Members in the order written, repeated names included. -/
  | object (members : List (Option String × Json))
  deriving Repr, Inhabited

namespace Json

/-- A text as a JSON value. -/
def text (content : String) : Json := string (some content)

/-- A natural number as a JSON value. -/
def natural (count : Nat) : Json := number (toString count)

/-- An integer as a JSON value. -/
def integer (amount : Int) : Json := number (toString amount)

/-- An object of named members. -/
def record (members : List (String × Json)) : Json :=
  object (members.map fun (name, value) => (some name, value))

/-- An absent value is null. -/
def optional (encode : α → Json) : Option α → Json
  | none => null
  | some value => encode value

/-- The value of the first member of a name. -/
def member? (name : String) : Json → Option Json
  | object members => (members.find? fun pair => pair.1 == some name).map (·.2)
  | _ => none

/-- The characters of a text value. -/
def text? : Json → Option String
  | string text? => text?
  | _ => none

/-- The elements of an array value. -/
def elements? : Json → Option (List Json)
  | array elements => some elements
  | _ => none

/-- The truth value of a boolean. -/
def bool? : Json → Option Bool
  | bool truth => some truth
  | _ => none

/-- A number spelled as digits alone. -/
def natural? : Json → Option Nat
  | number spelling => Text.digitsValue? spelling.toList
  | _ => none

/-- A number spelled without fraction and exponent; minus zero is no integer. -/
def integer? : Json → Option Int
  | number spelling =>
    match spelling.toList with
    | '-' :: digits =>
      match Text.digitsValue? digits with
      | some 0 => none
      | some value => some (-(value : Int))
      | none => none
    | digits => (Text.digitsValue? digits).map Int.ofNat
  | _ => none

/-- A natural number of 64 bits. -/
def natural64? (value : Json) : Option Nat :=
  value.natural?.filter (· < 0x10000000000000000)

/-- A signed number of 64 bits. -/
def integer64? (value : Json) : Option Int :=
  value.integer?.filter fun amount => -0x8000000000000000 ≤ amount ∧ amount < 0x8000000000000000

end Json

end Inspection
