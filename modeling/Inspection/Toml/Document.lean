import Inspection.Toml.Draft
import Inspection.Toml.Moment
import Inspection.Toml.Number
import Inspection.Toml.Quoted

/-! A document is a sequence of lines, each of which opens a table or assigns a value. -/

namespace Inspection.Toml

/-- How many containers may stand inside one another, and how many parts a name may have. -/
def sizeLimit : Nat := 79

namespace Reader

/-- Takes one part of a name, bare or in quotes. -/
def namePart : Reader String := do
  blanks
  let part ← shortText <|> do
    let letters ← run fun letter => letter.isAlphanum || letter == '-' || letter == '_'
    if letters.isEmpty then failure else return String.ofList letters
  blanks
  return part

/-- A name: the parts that lead to a table and the last part. -/
structure Name where
  path : List String
  last : String

/-- Takes a name whose parts are separated by dots. -/
def name : Reader Name := do
  let parts ← separated namePart (exactly ['.'])
  match parts.getLast? with
  | some last => if parts.length ≤ sizeLimit then return ⟨parts.dropLast, last⟩ else failure
  | none => failure

/-- Takes a truth value. -/
def truth : Reader Toml :=
  (do exactly ['t', 'r', 'u', 'e']; return .truth true)
    <|> (do exactly ['f', 'a', 'l', 's', 'e']; return .truth false)

/-- Takes a value without parts. -/
def scalar : Reader Toml :=
  Toml.text <$> (longText <|> shortText) <|> truth <|> moment <|> number

/-- Takes an array over any number of lines; a comma may follow the last element. -/
def array (element : Reader Toml) : Reader Toml := do
  exactly ['[']
  let spaced : Reader Toml := do
    gap
    let value ← element
    gap
    return value
  let elements ← optionally do
    let elements ← separated spaced (exactly [','])
    let _ ← optionally (exactly [','])
    return elements
  gap
  exactly [']']
  return .array (elements.getD [])

/-- Takes a table on one line. -/
def inlineTable (element : Reader Toml) : Reader Toml := do
  exactly ['\x7b']
  let assignment : Reader (Name × Toml) := do
    let name ← name
    exactly ['=']
    blanks
    let value ← element
    blanks
    return (name, value)
  let assignments ← optionally (separated assignment (exactly [',']))
  blanks
  exactly ['\x7d']
  let entries ← (assignments.getD []).foldlM (fun entries (name, value) =>
    Draft.assign? [] name.path name.last value entries) []
  return .table (Draft.finishEntries entries)

/-- Takes a value that nests no deeper than allowed. -/
def value (depth : Nat) : Reader Toml :=
  match depth with
  | 0 => scalar
  | below + 1 => scalar <|> array (value below) <|> inlineTable (value below)

end Reader

/-- The lines read so far: the table that assignments go to, and all entries. -/
structure Progress where
  base : List String
  entries : Draft.Entries

namespace Progress

/-- Takes a header and opens its table. -/
def header (progress : Progress) : Reader Progress := do
  let opening ← Reader.optionally (Reader.exactly ['[', '['])
  if opening.isSome then
    let name ← Reader.name
    Reader.exactly [']', ']']
    return ⟨name.path ++ [name.last], ← Draft.openElement? progress.entries name.path name.last⟩
  else
    Reader.exactly ['[']
    let name ← Reader.name
    Reader.exactly [']']
    return ⟨name.path ++ [name.last], ← Draft.open? progress.entries name.path name.last⟩

/-- Takes an assignment. -/
def assignment (progress : Progress) : Reader Progress := do
  let name ← Reader.name
  Reader.exactly ['=']
  Reader.blanks
  let value ← Reader.value sizeLimit
  return { progress with
    entries := ← Draft.assign? progress.base name.path name.last value progress.entries }

/-- Takes one line. -/
def line (progress : Progress) : Reader Progress := do
  Reader.blanks
  let letter ← Reader.peek
  let progress ←
    if letter = some '[' then progress.header
    else if letter ∈ [none, some '#', some '\n', some '\r'] then pure progress
    else progress.assignment
  Reader.lineEnd
  return progress

/-- Takes all lines that are left. -/
def lines (progress : Progress) (letters : List Char) : Option Progress :=
  if letters.isEmpty then some progress
  else
    match progress.line letters with
    | none => none
    | some (progress, rest) =>
      if _shorter : rest.length < letters.length then progress.lines rest else none
termination_by letters.length

end Progress

/-- The table that a document describes; a byte order mark may stand in front. -/
def parse? (text : String) : Option Toml := do
  let letters := match text.toList with
    | '\uFEFF' :: rest => rest
    | letters => letters
  let progress ← Progress.lines ⟨[], []⟩ letters
  return .table (Draft.finishEntries progress.entries)

end Inspection.Toml
