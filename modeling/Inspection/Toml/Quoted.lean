import Inspection.Toml.Reader

/-! Quoted texts come in four forms: with and without escapes, on one line and on many. -/

namespace Inspection.Toml.Reader

/-- The value of a hexadecimal digit in either case. -/
def hexValue? (letter : Char) : Option Nat :=
  if letter.isDigit then some (letter.toNat - '0'.toNat)
  else if 'a' ≤ letter ∧ letter ≤ 'f' then some (letter.toNat - 'a'.toNat + 10)
  else if 'A' ≤ letter ∧ letter ≤ 'F' then some (letter.toNat - 'A'.toNat + 10)
  else none

/-- Takes the number of a character in a fixed count of hexadecimal digits. -/
def characterNumber (count : Nat) : Reader Char := do
  let digits ← take count
  let value ← digits.foldlM (fun value digit => do return value * 16 + (← hexValue? digit)) 0
  if value.isValidChar then return Char.ofNat value else failure

/-- Takes an escaped character. -/
def escaped : Reader Char := do
  exactly ['\\']
  match ← one fun _ => true with
  | 'b' => return '\x08'
  | 't' => return '\t'
  | 'n' => return '\n'
  | 'f' => return '\x0c'
  | 'r' => return '\r'
  | '"' => return '"'
  | '\\' => return '\\'
  | 'u' => characterNumber 4
  | 'U' => characterNumber 8
  | _ => failure

/-- Takes one character of a text with escapes. -/
def escapable : Reader Char :=
  one (fun letter => isPlain letter && letter != '"' && letter != '\\') <|> escaped

/-- Takes one character of a text without escapes. -/
def literal : Reader Char := one fun letter => isPlain letter && letter != '\''

/-- Takes a text on one line. -/
def oneLine (mark : Char) (piece : Reader Char) : Reader String := do
  exactly [mark]
  let pieces ← many piece
  exactly [mark]
  return String.ofList pieces

/-- Takes a text on one line in quotes of either kind. -/
def shortText : Reader String := oneLine '"' escapable <|> oneLine '\'' literal

/-- Takes one or two quotes that do not end a text on many lines. -/
def innerQuotes (mark : Char) : Reader (List Char) := do
  let quotes ← run (· == mark)
  if quotes.isEmpty || 2 < quotes.length then failure else return quotes

/-- Takes the three quotes that end a text on many lines, with up to two more before them. -/
def closingQuotes (mark : Char) : Reader (List Char) := fun letters =>
  let count := min 5 (letters.takeWhile (· == mark)).length
  if count < 3 then none else some (List.replicate (count - 3) mark, letters.drop count)

/-- Takes a backslash that hides the end of its line and all blanks after it. -/
def hiddenNewline : Reader (List Char) := do
  exactly ['\\']
  blanks
  newline
  let _ ← many (newline <|> do let _ ← one fun letter => letter == ' ' || letter == '\t')
  return []

/-- Takes a text on many lines; an end of line right after the opening quotes is not part of it. -/
def manyLines (mark : Char) (piece : Reader (List Char)) : Reader String := do
  exactly [mark, mark, mark]
  let _ ← optionally newline
  let pieces ← many (piece <|> innerQuotes mark)
  let last ← closingQuotes mark
  return String.ofList (pieces.flatten ++ last)

/-- Takes an end of line as a line feed. -/
def lineFeed : Reader (List Char) := do
  newline
  return ['\n']

/-- Takes a text on many lines in quotes of either kind. -/
def longText : Reader String :=
  manyLines '"' ((do return [← escapable]) <|> hiddenNewline <|> lineFeed)
    <|> manyLines '\'' ((do return [← literal]) <|> lineFeed)

end Inspection.Toml.Reader
