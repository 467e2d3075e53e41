/-! TOML values keep every spelling that no setting can hold, since a setting may still be refused. -/

namespace Inspection

/-- A TOML value. -/
inductive Toml where
  | text (content : String)
  | integer (amount : Int)
  /-- A number with a fraction or an exponent, as it is spelled. -/
  | float (spelling : String)
  | truth (value : Bool)
  /-- A date, a time or both, as it is spelled. -/
  | moment (spelling : String)
  | array (elements : List Toml)
  /-- A table with distinct names. -/
  | table (entries : List (String × Toml))
  deriving Repr, Inhabited

namespace Toml

/-- The characters of a text value. -/
def text? : Toml → Option String
  | text content => some content
  | _ => none

/-- The truth value of a boolean. -/
def truth? : Toml → Option Bool
  | truth value => some value
  | _ => none

/-- An integer that is not negative. -/
def natural? : Toml → Option Nat
  | integer (.ofNat amount) => some amount
  | _ => none

/-- The elements of an array. -/
def elements? : Toml → Option (List Toml)
  | array elements => some elements
  | _ => none

end Toml

end Inspection
