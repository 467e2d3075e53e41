/-! Blank characters separate words and are cut from both ends of a line. -/

namespace Inspection.Text

/-- The characters of the property White_Space. -/
def isBlank (letter : Char) : Bool :=
  let code := letter.toNat
  (9 ≤ code && code ≤ 13) || code == 0x20 || code == 0x85 || code == 0xA0 || code == 0x1680
    || (0x2000 ≤ code && code ≤ 0x200A) || code == 0x2028 || code == 0x2029 || code == 0x202F
    || code == 0x205F || code == 0x3000

/-- The letters without a tail of blanks. -/
def trimEndList (isCut : Char → Bool) (letters : List Char) : List Char :=
  (letters.reverse.dropWhile isCut).reverse

/-- The letters without blanks at either end. -/
def trimList (letters : List Char) : List Char :=
  trimEndList isBlank (letters.dropWhile isBlank)

/-- The text without blanks at either end. -/
def trim (text : String) : String := String.ofList (trimList text.toList)

/-- The words found so far, with the letters of an unfinished one in front. -/
def wordsFrom (unfinished : List Char) : List Char → List (List Char)
  | [] => if unfinished.isEmpty then [] else [unfinished.reverse]
  | letter :: rest =>
    if isBlank letter then
      if unfinished.isEmpty then wordsFrom [] rest else unfinished.reverse :: wordsFrom [] rest
    else wordsFrom (letter :: unfinished) rest

/-- The longest runs of letters without blanks. -/
def words (letters : List Char) : List (List Char) := wordsFrom [] letters

/-- A text that holds nothing but blanks. -/
def isBlankText (text : String) : Bool := text.toList.all isBlank

end Inspection.Text
