import Inspection.Text.Age
import Inspection.Text.Category
import Inspection.Text.CharSet
import Inspection.Text.Property
import Inspection.Text.Script
import Inspection.Text.Segmentation

/-! Properties, categories and scripts are named loosely: case, blanks and hyphens do not matter. -/

namespace Inspection.Text

/-- A name without blanks, underscores, hyphens and a leading "is", in lower case. -/
def looseName (name : String) : String :=
  let letters := name.toList
  let isPrefixed : Bool := match letters with
    | first :: second :: _ => first.toLower = 'i' && second.toLower = 's'
    | _ => false
  let kept := ((if isPrefixed then letters.drop 2 else letters).filter fun letter =>
    letter ≠ ' ' ∧ letter ≠ '_' ∧ letter ≠ '-' ∧ letter.toNat < 0x80).map Char.toLower
  -- The short name of one property begins with "is" itself.
  if isPrefixed ∧ kept = ['c'] then "isc" else String.ofList kept

/-- The set that a list of tables gives for a loose name. -/
def tableNamed? (tables : List (List String × String)) (name : String) : Option CharSet :=
  (tables.find? fun table => table.1.contains name).map fun table => CharSet.ofTable table.2

/-- The categories that are made of others. -/
def compoundCategories : List (List String × List String) := [
  (["c", "other"], ["cc", "cf", "cn", "co"]),
  (["l", "letter"], ["lu", "ll", "lt", "lm", "lo"]),
  (["lc", "casedletter"], ["lu", "ll", "lt"]),
  (["m", "mark", "combiningmark"], ["mc", "me", "mn"]),
  (["n", "number"], ["nd", "nl", "no"]),
  (["p", "punctuation", "punct"], ["pc", "pd", "pe", "pf", "pi", "po", "ps"]),
  (["s", "symbol"], ["sc", "sk", "sm", "so"]),
  (["z", "separator"], ["zl", "zp", "zs"])]

/-- The characters of every category that is assigned. -/
def assigned : CharSet :=
  CharSet.ofRanges (categoryTables.flatMap fun table => (CharSet.ofTable table.2).ranges)

/-- The code points that are no characters of their own. -/
def surrogates : CharSet := CharSet.range 0xD800 0xDFFF

/-- The characters of one simple category; surrogates are left out of the unassigned ones. -/
def simpleCategory? (name : String) : Option CharSet :=
  if name = "cn" ∨ name = "unassigned" then
    some (assigned.union surrogates).complement
  else tableNamed? categoryTables name

/-- The characters of a category, simple or compound, by its loose name. -/
def category? (name : String) : Option CharSet :=
  if name = "any" then some CharSet.all
  else if name = "assigned" then some assigned
  else if name = "ascii" then some (CharSet.range 0 0x7F)
  else
    match compoundCategories.find? fun compound => compound.1.contains name with
    | some compound =>
      some (CharSet.ofRanges (compound.2.flatMap fun part =>
        ((simpleCategory? part).getD .empty).ranges))
    | none => simpleCategory? name

/-- The characters of a script by its loose name. -/
def script? (name : String) : Option CharSet := tableNamed? scriptTables name

/-- The characters that a script uses, those shared with other scripts included. -/
def scriptExtension? (name : String) : Option CharSet :=
  (tableNamed? scriptExtensionTables name).or (script? name)

/-- The characters that an edition of the tables, by its loose name, or an older one brought. -/
def age? (name : String) : Option CharSet := do
  let position ← ageTables.findIdx? fun table => table.1.contains name
  return CharSet.ofRanges ((ageTables.take (position + 1)).flatMap fun table =>
    (CharSet.ofTable table.2).ranges)

/--
The set that a single name stands for: a property, else a category, else a script.

A property whose values are not yes and no stands for no set by itself.
-/
def named? (name : String) : Option CharSet :=
  let loose := looseName name
  (tableNamed? propertyTables loose).or ((category? loose).or (script? loose))

/-- The set that a property name and a value stand for. -/
def valued? (property value : String) : Option CharSet :=
  let value := looseName value
  match looseName property with
  | "gc" | "generalcategory" => category? value
  | "sc" | "script" => script? value
  | "scx" | "scriptextensions" => scriptExtension? value
  | "age" => age? value
  | "gcb" | "graphemeclusterbreak" => tableNamed? graphemeBreakTables value
  | "wb" | "wordbreak" => tableNamed? wordBreakTables value
  | "sb" | "sentencebreak" => tableNamed? sentenceBreakTables value
  | _ => none

end Inspection.Text
