import Inspection.Json

/-! Printing escapes only what JSON demands and leaves all other characters as they are. -/

namespace Inspection.Json

/-- A hexadecimal digit in lower case. -/
def hexLetter (digit : Nat) : Char :=
  if digit < 10 then Char.ofNat ('0'.toNat + digit) else Char.ofNat ('a'.toNat + (digit - 10))

/-- One character of a quoted text: quote, backslash and control characters are escaped. -/
def escape (letter : Char) : List Char :=
  match letter with
  | '"' => ['\\', '"']
  | '\\' => ['\\', '\\']
  | '\x08' => ['\\', 'b']
  | '\x0c' => ['\\', 'f']
  | '\n' => ['\\', 'n']
  | '\r' => ['\\', 'r']
  | '\t' => ['\\', 't']
  | _ =>
    if letter.toNat < 0x20 then
      ['\\', 'u', '0', '0', hexLetter (letter.toNat / 16), hexLetter (letter.toNat % 16)]
    else [letter]

/-- A text in quotes. -/
def quote (content : String) : String :=
  "\"" ++ String.ofList (content.toList.flatMap escape) ++ "\""

/-- A text that has no characters of its own prints as null. -/
def quote? : Option String → String
  | some content => quote content
  | none => "null"

/-- The pieces of a list between a pair of brackets, separated by commas. -/
def bracket (opening closing : String) (pieces : List String) : String :=
  opening ++ String.intercalate "," pieces ++ closing

mutual

/-- The shortest spelling: no white space at all. -/
def compact : Json → String
  | null => "null"
  | bool true => "true"
  | bool false => "false"
  | number spelling => spelling
  | string text? => quote? text?
  | array elements => bracket "[" "]" (compactElements elements)
  | object members => bracket "\x7b" "\x7d" (compactMembers members)

/-- Each element in its shortest spelling. -/
def compactElements : List Json → List String
  | [] => []
  | element :: rest => compact element :: compactElements rest

/-- Each member in its shortest spelling. -/
def compactMembers : List (Option String × Json) → List String
  | [] => []
  | (name, value) :: rest => (quote? name ++ ":" ++ compact value) :: compactMembers rest

end

/-- The pieces of a container on lines of their own; an empty container stays on one line. -/
def layOut (indent : Nat) (opening closing : String) (pieces : List String) : String :=
  if pieces.isEmpty then opening ++ closing
  else
    let inner := "\n" ++ String.ofList (List.replicate (indent + 2) ' ')
    let outer := "\n" ++ String.ofList (List.replicate indent ' ')
    opening ++ inner ++ String.intercalate ("," ++ inner) pieces ++ outer ++ closing

mutual

/-- The spelling over several lines, each level two blanks deeper. -/
def pretty (indent : Nat) : Json → String
  | null => "null"
  | bool true => "true"
  | bool false => "false"
  | number spelling => spelling
  | string text? => quote? text?
  | array elements => layOut indent "[" "]" (prettyElements (indent + 2) elements)
  | object members => layOut indent "\x7b" "\x7d" (prettyMembers (indent + 2) members)

/-- Each element over several lines. -/
def prettyElements (indent : Nat) : List Json → List String
  | [] => []
  | element :: rest => pretty indent element :: prettyElements indent rest

/-- Each member over several lines. -/
def prettyMembers (indent : Nat) : List (Option String × Json) → List String
  | [] => []
  | (name, value) :: rest =>
    (quote? name ++ ": " ++ pretty indent value) :: prettyMembers indent rest

end

end Inspection.Json
