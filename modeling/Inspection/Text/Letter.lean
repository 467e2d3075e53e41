import Inspection.Text.PropertyName

/-! Letters, digits and word characters beyond ASCII are those of the character properties. -/

namespace Inspection.Text

/-- The characters of the property Alphabetic. -/
def alphabeticSet : CharSet := (tableNamed? propertyTables "alphabetic").getD .empty

/-- Alphabetic characters and numbers of every kind. -/
def alphanumericSet : CharSet := alphabeticSet.union ((category? "n").getD .empty)

/-- Decimal digits of every script. -/
def digitSet : CharSet := (category? "nd").getD .empty

/-- The blank characters as a set. -/
def blankSet : CharSet := (tableNamed? propertyTables "whitespace").getD .empty

/-- Alphabetic characters, marks, decimal digits, connectors and joiners make up words. -/
def wordSet : CharSet :=
  CharSet.ofRanges (alphabeticSet.ranges ++ ((category? "m").getD .empty).ranges ++ digitSet.ranges
    ++ ((category? "pc").getD .empty).ranges
    ++ ((tableNamed? propertyTables "joincontrol").getD .empty).ranges)

/-- Alphabetic characters that names may hold and the property tables do not list yet. -/
def newerLetters : CharSet := CharSet.ofTable
  "88f 3cc 7f 9af1.1 2 1 1c 614e.19 56b.2 32.1 c64.7 248.2b 50c4.18 2.18 11e.4 1801.7 509.15
  61.72 58cd.1e 1.15 8.1 d03a.5 1762.b 5502.10c9"

/-- Numbers that names may hold and the property tables do not list yet. -/
def newerNumbers : CharSet := CharSet.ofTable "11de0.9 520a.2"

/-- Whether a character is alphabetic. -/
def isAlphabetic (letter : Char) : Bool :=
  if letter.toNat < 0x80 then letter.isAlpha
  else alphabeticSet.contains letter || newerLetters.contains letter

/-- Whether a character is alphabetic or a number. -/
def isAlphanumeric (letter : Char) : Bool :=
  if letter.toNat < 0x80 then letter.isAlphanum
  else alphanumericSet.contains letter || newerLetters.contains letter
    || newerNumbers.contains letter

/-- Whether a character is part of a word. -/
def isWord (letter : Char) : Bool :=
  if letter.toNat < 0x80 then letter.isAlphanum || letter == '_' else wordSet.contains letter

end Inspection.Text
