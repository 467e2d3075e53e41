import Inspection.Text.Blank
import Inspection.Text.Decimal
import Inspection.Text.Letter
import Inspection.Value

/-! A path names a local variable and then walks to a child by each member name or position. -/

namespace Inspection

/-- A local variable's name and the keys of the walk from it. -/
structure Path where
  root : String
  keys : List ChildKey
  deriving DecidableEq, Repr, Inhabited

/-- How one step of a walk is written: positions in brackets, members after a dot. -/
def ChildKey.segment : ChildKey → String
  | position index => (position index).text
  | member name => "." ++ name

namespace Path

/-- The text of a path. -/
def text (path : Path) : String :=
  path.keys.foldl (fun walked key => walked ++ key.segment) path.root

/-- The characters of names. -/
def isNameLetter (letter : Char) : Bool :=
  Text.isAlphanumeric letter || letter == '_' || letter == '$'

/-- What follows the leading run of name letters. -/
def afterName (letters : List Char) : List Char := letters.dropWhile isNameLetter

/-- Dropping a leading run leaves no more than there was. -/
theorem length_dropWhile_le (test : α → Bool) (letters : List α) :
    (letters.dropWhile test).length ≤ letters.length :=
  (List.dropWhile_sublist test).length_le

/-- The position written between brackets, with blanks around it. -/
def position? (letters : List Char) : Option Nat := Text.natural64? (Text.trimList letters)

/-- The keys of a walk, or nothing if the text is no walk. -/
def keys? (letters : List Char) : Option (List ChildKey) :=
  match letters with
  | [] => some []
  | '.' :: rest =>
    let name := rest.takeWhile isNameLetter
    if name.isEmpty then none
    else do return .member (String.ofList name) :: (← keys? (afterName rest))
  | '[' :: rest =>
    -- The brackets end at the first closing one.
    match _closing : rest.dropWhile (· != ']') with
    | [] => none
    | _ :: after => do
      let index ← position? (rest.takeWhile (· != ']'))
      return .position index :: (← keys? after)
  | _ :: _ => none
termination_by letters.length
decreasing_by
  · have := length_dropWhile_le isNameLetter rest
    simp only [afterName, List.length_cons]
    omega
  · have shorter := length_dropWhile_le (· != ']') rest
    rw [_closing] at shorter
    simp only [List.length_cons] at shorter ⊢
    omega

/-- The path a text spells: a name and then a walk. -/
def parse? (text : String) : Option Path :=
  let letters := text.toList
  let name := letters.takeWhile isNameLetter
  if name.isEmpty then none
  else do return ⟨String.ofList name, ← keys? (afterName letters)⟩

end Path

end Inspection
