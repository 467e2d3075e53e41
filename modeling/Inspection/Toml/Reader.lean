/-! A reader takes letters from the front of a text and hands on the rest. -/

namespace Inspection.Toml

/-- Takes letters from the front of a text, or fails and takes none. -/
abbrev Reader (α : Type) := StateT (List Char) Option α

namespace Reader

/-- The next letter, left where it is. -/
def peek : Reader (Option Char) := fun letters => some (letters.head?, letters)

/-- Takes one letter that passes a test. -/
def one (test : Char → Bool) : Reader Char
  | [] => none
  | letter :: rest => if test letter then some (letter, rest) else none

/-- Takes exactly the given letters. -/
def exactly (word : List Char) : Reader Unit := fun letters =>
  if word.isPrefixOf letters then some ((), letters.drop word.length) else none

/-- Takes the longest run of letters that pass a test. -/
def run (test : Char → Bool) : Reader (List Char) := fun letters =>
  some (letters.takeWhile test, letters.dropWhile test)

/-- Takes a fixed number of letters. -/
def take (count : Nat) : Reader (List Char) := fun letters =>
  if count ≤ letters.length then some (letters.take count, letters.drop count) else none

/-- What a reader takes again and again, newest first, and where it stops taking. -/
def manyFrom (part : Reader α) (found : List α) (letters : List Char) : List α × List Char :=
  match part letters with
  | none => (found, letters)
  | some (value, rest) =>
    -- A part that takes nothing would be found forever.
    if _shorter : rest.length < letters.length then manyFrom part (value :: found) rest
    else (found, letters)
termination_by letters.length

/-- Takes a part as often as it can be found. -/
def many (part : Reader α) : Reader (List α) := fun letters =>
  let (found, rest) := manyFrom part [] letters
  some (found.reverse, rest)

/-- Takes one part or more, with a separator between any two. -/
def separated (part : Reader α) (separator : Reader Unit) : Reader (List α) := do
  let first ← part
  let others ← many do
    separator
    part
  return first :: others

/-- Takes a part if it can be found. -/
def optionally (part : Reader α) : Reader (Option α) := some <$> part <|> pure none

/-- The letters that a reader takes. -/
def spelling (part : Reader α) : Reader String := fun letters =>
  (part letters).map fun (_, rest) =>
    (String.ofList (letters.take (letters.length - rest.length)), rest)

/-- Takes blanks within a line. -/
def blanks : Reader Unit := do
  let _ ← run fun letter => letter == ' ' || letter == '\t'

/-- Takes the end of a line, which is the same with and without a carriage return. -/
def newline : Reader Unit := exactly ['\n'] <|> exactly ['\r', '\n']

/-- Whether a character may stand for itself: of the control characters only the tabulator. -/
def isPlain (letter : Char) : Bool :=
  letter == '\t' || (0x20 ≤ letter.toNat && letter.toNat != 0x7F)

/-- Takes a comment up to the end of its line. -/
def comment : Reader Unit := do
  exactly ['#']
  let _ ← run isPlain

/-- Takes what may follow a statement on its line, and the end of the line or of the text. -/
def lineEnd : Reader Unit := do
  blanks
  let _ ← optionally comment
  match ← peek with
  | none => return
  | some _ => newline

/-- Takes blanks, comments and ends of lines. -/
def gap : Reader Unit := do
  let _ ← many do
    blanks
    let _ ← optionally comment
    newline
  blanks

end Reader

end Inspection.Toml
