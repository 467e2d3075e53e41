import Inspection.Regex.Expression
import Inspection.Text.Letter

/-! A backslash gives a character, a class, a property or a condition on the position. -/

namespace Inspection.Regex

/-- Skips blanks and comments where the pattern ignores them. -/
def skipIgnored (verbose inComment : Bool) : List Char → List Char
  | [] => []
  | letter :: rest =>
    if !verbose then letter :: rest
    else if inComment then skipIgnored verbose (letter != '\n') rest
    else if Text.isBlank letter then skipIgnored verbose false rest
    else if letter = '#' then skipIgnored verbose true rest
    else letter :: rest

/-- Drops one character and what is ignored after it. -/
def advance (verbose : Bool) (letters : List Char) : List Char :=
  skipIgnored verbose false (letters.drop 1)

/-- The value of a hexadecimal digit in either case. -/
def hexDigit? (letter : Char) : Option Nat := Text.hexDigitValue? letter.toLower

/-- The character of a code, unless the code is a surrogate or too large. -/
def charOfCode? (code : Nat) : Option Char :=
  if h : code.isValidChar then some (Char.ofNatAux code h) else none

/-- Reads a fixed number of hexadecimal digits. -/
def hexDigits (verbose : Bool) (count value : Nat) (letters : List Char) :
    Option (Nat × List Char) :=
  match count with
  | 0 => some (value, letters)
  | missing + 1 =>
    match letters with
    | [] => none
    | letter :: _ => do
      let digit ← hexDigit? letter
      hexDigits verbose missing (value * 16 + digit) (advance verbose letters)

/-- Reads hexadecimal digits up to a closing brace; the fuel is at least the text's length. -/
def hexBraced (verbose : Bool) (fuel : Nat) (value? : Option Nat) (letters : List Char) :
    Option (Nat × List Char) :=
  match fuel, letters with
  | 0, _ | _, [] => none
  | fuel + 1, letter :: _ =>
    if letter = '\x7d' then value?.map fun value => (value, advance verbose letters)
    else do
      let digit ← hexDigit? letter
      hexBraced verbose fuel (some (value?.getD 0 * 16 + digit)) (advance verbose letters)

/-- Reads a character written as a hexadecimal code; the digits wanted come from the escape. -/
def hexCode (verbose : Bool) (digits : Nat) (letters : List Char) :
    Option (Char × Bool × List Char) :=
  match letters with
  | [] => none
  | letter :: _ =>
    if letter = '\x7b' then do
      let (code, rest) ← hexBraced verbose letters.length none (advance verbose letters)
      return (← charOfCode? code, false, rest)
    else do
      let (code, rest) ← hexDigits verbose digits 0 letters
      return (← charOfCode? code, digits == 2, rest)

/-- Collects the name of a property up to a closing brace. -/
def propertyName (verbose : Bool) (fuel : Nat) (name : List Char) (letters : List Char) :
    Option (List Char × List Char) :=
  match fuel, letters with
  | 0, _ | _, [] => none
  | fuel + 1, letter :: rest =>
    if letter = '\x7d' then some (name.reverse, rest)
    else propertyName verbose fuel (letter :: name) (advance verbose letters)

/-- Cuts a text at the first occurrence of a mark. -/
def cutAt? (mark : List Char) : List Char → Option (List Char × List Char)
  | [] => none
  | letter :: rest =>
    if mark.isPrefixOf (letter :: rest) then some ([], (letter :: rest).drop mark.length)
    else (cutAt? mark rest).map fun (before, after) => (letter :: before, after)

/-- The property that a name in braces asks for, and whether its characters are excluded. -/
def queryOfName (name : List Char) : PropertyQuery × Bool :=
  match cutAt? ['!', '='] name with
  | some (property, value) => (.valued (String.ofList property) (String.ofList value), true)
  | none =>
    match (cutAt? [':'] name).or (cutAt? ['='] name) with
    | some (property, value) => (.valued (String.ofList property) (String.ofList value), false)
    | none => (.single (String.ofList name), false)

/-- Reads the property after its escape letter. -/
def propertyClass (verbose negated : Bool) (letters : List Char) :
    Option (PropertyQuery × Bool × List Char) :=
  match letters with
  | [] => none
  | letter :: rest =>
    if letter = '\x7b' then do
      let (name, rest) ← propertyName verbose letters.length [] (advance verbose letters)
      let (query, excluded) := queryOfName name
      return (query, negated != excluded, rest)
    else if letter = '\\' then none
    else some (.single (String.singleton letter), negated, rest)

/-- The characters with a meaning of their own, which an escape takes away. -/
def isMeta (letter : Char) : Bool :=
  "\\.+*?()|[]\x7b\x7d^$#&-~".toList.contains letter

/-- Other characters that may be escaped without need. -/
def isEscapable (letter : Char) : Bool :=
  isMeta letter || (letter.toNat < 0x80 && !letter.isAlphanum && letter != '<' && letter != '>')

/-- The control characters with an escape of one letter. -/
def controlEscape? (letter : Char) : Option Char :=
  match letter with
  | 'a' => some '\x07'
  | 'f' => some '\x0c'
  | 't' => some '\t'
  | 'n' => some '\n'
  | 'r' => some '\r'
  | 'v' => some '\x0b'
  | _ => none

/-- Letters and hyphens may spell a special word boundary. -/
def isBoundaryLetter (letter : Char) : Bool := letter.isAlpha || letter == '-'

/-- Collects the letters of a special word boundary. -/
def boundaryName (verbose : Bool) (fuel : Nat) (name letters : List Char) :
    List Char × List Char :=
  match fuel, letters with
  | 0, _ | _, [] => (name.reverse, letters)
  | fuel + 1, letter :: _ =>
    if isBoundaryLetter letter then
      boundaryName verbose fuel (letter :: name) (advance verbose letters)
    else (name.reverse, letters)

/-- The word boundary after its escape, which a name in braces may make special. -/
def wordBoundary (verbose : Bool) (letters : List Char) : Option (Assertion × List Char) :=
  match letters with
  | '\x7b' :: _ =>
    match advance verbose letters with
    | [] => none
    | first :: others =>
      -- A count in braces is a repetition of the plain boundary.
      if !isBoundaryLetter first then some (.wordBoundary, letters)
      else
        match boundaryName verbose letters.length [] (first :: others) with
        | (name, '\x7d' :: rest) =>
          match String.ofList name with
          | "start" => some (.wordStart, rest)
          | "end" => some (.wordEnd, rest)
          | "start-half" => some (.wordStartHalf, rest)
          | "end-half" => some (.wordEndHalf, rest)
          | _ => none
        | _ => none
  | _ => some (.wordBoundary, letters)

/-- Reads what follows a backslash. -/
def escape (verbose : Bool) (letters : List Char) : Option (Expression × List Char) :=
  match letters with
  | [] => none
  | letter :: rest =>
    match letter with
    | 'x' => do
      let (meant, byte, rest) ← hexCode verbose 2 (skipIgnored verbose false rest)
      return (.literal meant byte, rest)
    | 'u' => do
      let (meant, byte, rest) ← hexCode verbose 4 (skipIgnored verbose false rest)
      return (.literal meant byte, rest)
    | 'U' => do
      let (meant, byte, rest) ← hexCode verbose 8 (skipIgnored verbose false rest)
      return (.literal meant byte, rest)
    | 'p' => do
      let (query, negated, rest) ← propertyClass verbose false (skipIgnored verbose false rest)
      return (.property query negated, rest)
    | 'P' => do
      let (query, negated, rest) ← propertyClass verbose true (skipIgnored verbose false rest)
      return (.property query negated, rest)
    | 'd' => some (.short .digit false, rest)
    | 'D' => some (.short .digit true, rest)
    | 's' => some (.short .space false, rest)
    | 'S' => some (.short .space true, rest)
    | 'w' => some (.short .word false, rest)
    | 'W' => some (.short .word true, rest)
    | 'A' => some (.assertion .textStart, rest)
    | 'z' => some (.assertion .textEnd, rest)
    | 'B' => some (.assertion .noWordBoundary, rest)
    | '<' => some (.assertion .wordStart, rest)
    | '>' => some (.assertion .wordEnd, rest)
    | 'b' => (wordBoundary verbose rest).map fun (kind, rest) => (.assertion kind, rest)
    | _ =>
      if isEscapable letter then some (.literal letter false, rest)
      else (controlEscape? letter).map fun meant => (.literal meant false, rest)

end Inspection.Regex
