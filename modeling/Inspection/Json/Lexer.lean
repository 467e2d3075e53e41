import Inspection.Json

/-! Lexing consumes one character at a time and cuts a text into the tokens of the grammar. -/

namespace Inspection.Json

/-- The smallest pieces of a JSON text. -/
inductive Token where
  | openArray
  | closeArray
  | openObject
  | closeObject
  | comma
  | colon
  /-- A value without parts. -/
  | scalar (value : Json)
  deriving Inhabited

namespace Lexer

/-- How far a number has been spelled. -/
inductive NumberPart where
  | sign
  | zero
  | whole
  | point
  | fraction
  | exponentMark
  | exponentSign
  | exponent
  deriving DecidableEq

/-- A number may end only after a digit. -/
def NumberPart.complete : NumberPart → Bool
  | zero | whole | fraction | exponent => true
  | sign | point | exponentMark | exponentSign => false

/-- The part that a further character leads to. -/
def NumberPart.next? (part : NumberPart) (letter : Char) : Option NumberPart :=
  match part with
  | sign => if letter = '0' then some zero else if letter.isDigit then some whole else none
  | zero =>
    if letter = '.' then some point
    else if letter = 'e' ∨ letter = 'E' then some exponentMark else none
  | whole =>
    if letter.isDigit then some whole
    else if letter = '.' then some point
    else if letter = 'e' ∨ letter = 'E' then some exponentMark else none
  | point => if letter.isDigit then some fraction else none
  | fraction =>
    if letter.isDigit then some fraction
    else if letter = 'e' ∨ letter = 'E' then some exponentMark else none
  | exponentMark =>
    if letter = '+' ∨ letter = '-' then some exponentSign
    else if letter.isDigit then some exponent else none
  | exponentSign => if letter.isDigit then some exponent else none
  | exponent => if letter.isDigit then some exponent else none

/-- The characters read so far of a text value, newest first. -/
structure TextSoFar where
  letters : List Char
  /-- A high surrogate waits for its low half. -/
  high : Option Nat
  /-- Some surrogate has stayed unpaired. -/
  broken : Bool

/-- No text has been read. -/
def TextSoFar.empty : TextSoFar := ⟨[], none, false⟩

/-- A further character; a waiting high surrogate stays unpaired. -/
def TextSoFar.push (text : TextSoFar) (letter : Char) : TextSoFar :=
  ⟨letter :: text.letters, none, text.broken || text.high.isSome⟩

/-- A further escaped code unit, which may pair with a waiting high surrogate. -/
def TextSoFar.pushUnit (text : TextSoFar) (unit : Nat) : TextSoFar :=
  match text.high with
  | some high =>
    if 0xDC00 ≤ unit ∧ unit < 0xE000 then
      ⟨Char.ofNat (0x10000 + (high - 0xD800) * 0x400 + (unit - 0xDC00)) :: text.letters,
        none, text.broken⟩
    else if 0xD800 ≤ unit ∧ unit < 0xDC00 then ⟨text.letters, some unit, true⟩
    else ⟨Char.ofNat unit :: text.letters, none, true⟩
  | none =>
    if 0xD800 ≤ unit ∧ unit < 0xDC00 then ⟨text.letters, some unit, text.broken⟩
    else if 0xDC00 ≤ unit ∧ unit < 0xE000 then ⟨text.letters, none, true⟩
    else ⟨Char.ofNat unit :: text.letters, none, text.broken⟩

/-- The finished text, unless a surrogate stayed unpaired. -/
def TextSoFar.finish (text : TextSoFar) : Option String :=
  if text.broken || text.high.isSome then none else some (String.ofList text.letters.reverse)

/-- What the lexer is in the middle of. -/
inductive Mode where
  | between
  | word (letters : List Char)
  | number (part : NumberPart) (letters : List Char)
  | text (soFar : TextSoFar)
  | escape (soFar : TextSoFar)
  | codeUnit (soFar : TextSoFar) (missing value : Nat)

/-- The lexer's mode and the tokens finished so far, newest first. -/
structure State where
  mode : Mode
  tokens : List Token

/-- The value of a hexadecimal digit. -/
def hexDigit? (letter : Char) : Option Nat :=
  if letter.isDigit then some (letter.toNat - '0'.toNat)
  else if 'a' ≤ letter ∧ letter ≤ 'f' then some (letter.toNat - 'a'.toNat + 10)
  else if 'A' ≤ letter ∧ letter ≤ 'F' then some (letter.toNat - 'A'.toNat + 10)
  else none

/-- The literal names. -/
def word? (letters : List Char) : Option Json :=
  if letters = ['n', 'u', 'l', 'l'] then some .null
  else if letters = ['t', 'r', 'u', 'e'] then some (.bool true)
  else if letters = ['f', 'a', 'l', 's', 'e'] then some (.bool false)
  else none

/-- White space of the grammar: space, tab and the two line ends. -/
def isSpace (letter : Char) : Bool :=
  letter = ' ' || letter = '\t' || letter = '\n' || letter = '\r'

/-- Starts a token, or finishes one of a single character. -/
def stepBetween (tokens : List Token) (letter : Char) : Option State :=
  if isSpace letter then some ⟨.between, tokens⟩
  else if letter = '[' then some ⟨.between, .openArray :: tokens⟩
  else if letter = ']' then some ⟨.between, .closeArray :: tokens⟩
  else if letter = '\x7b' then some ⟨.between, .openObject :: tokens⟩
  else if letter = '\x7d' then some ⟨.between, .closeObject :: tokens⟩
  else if letter = ',' then some ⟨.between, .comma :: tokens⟩
  else if letter = ':' then some ⟨.between, .colon :: tokens⟩
  else if letter = '"' then some ⟨.text .empty, tokens⟩
  else if letter = '-' then some ⟨.number .sign [letter], tokens⟩
  else if letter = '0' then some ⟨.number .zero [letter], tokens⟩
  else if letter.isDigit then some ⟨.number .whole [letter], tokens⟩
  else if letter.isAlpha then some ⟨.word [letter], tokens⟩
  else none

/-- The escapes of one letter. -/
def shortEscape? (letter : Char) : Option Char :=
  match letter with
  | '"' => some '"'
  | '\\' => some '\\'
  | '/' => some '/'
  | 'b' => some '\x08'
  | 'f' => some '\x0c'
  | 'n' => some '\n'
  | 'r' => some '\r'
  | 't' => some '\t'
  | _ => none

/-- One character further. -/
def step (state : State) (letter : Char) : Option State :=
  match state.mode with
  | .between => stepBetween state.tokens letter
  | .word letters =>
    if letter.isAlpha then some ⟨.word (letter :: letters), state.tokens⟩
    else do
      let value ← word? letters.reverse
      stepBetween (.scalar value :: state.tokens) letter
  | .number part letters =>
    match part.next? letter with
    | some next => some ⟨.number next (letter :: letters), state.tokens⟩
    | none =>
      if part.complete then
        stepBetween (.scalar (.number (String.ofList letters.reverse)) :: state.tokens) letter
      else none
  | .text soFar =>
    if letter = '"' then some ⟨.between, .scalar (.string soFar.finish) :: state.tokens⟩
    else if letter = '\\' then some ⟨.escape soFar, state.tokens⟩
    else if letter.toNat < 0x20 then none
    else some ⟨.text (soFar.push letter), state.tokens⟩
  | .escape soFar =>
    if letter = 'u' then some ⟨.codeUnit soFar 4 0, state.tokens⟩
    else (shortEscape? letter).map fun meant => ⟨.text (soFar.push meant), state.tokens⟩
  | .codeUnit soFar missing value => do
    let digit ← hexDigit? letter
    let value := value * 16 + digit
    if missing ≤ 1 then some ⟨.text (soFar.pushUnit value), state.tokens⟩
    else some ⟨.codeUnit soFar (missing - 1) value, state.tokens⟩

/-- The tokens once the text has ended. -/
def finish (state : State) : Option (List Token) :=
  match state.mode with
  | .between => some state.tokens.reverse
  | .word letters => (word? letters.reverse).map fun value =>
    (Token.scalar value :: state.tokens).reverse
  | .number part letters =>
    if part.complete then
      some (Token.scalar (.number (String.ofList letters.reverse)) :: state.tokens).reverse
    else none
  | .text _ | .escape _ | .codeUnit .. => none

end Lexer

/-- All tokens of a text, if it is made of tokens. -/
def tokens? (letters : List Char) : Option (List Token) := do
  let state ← letters.foldlM Lexer.step ⟨.between, []⟩
  Lexer.finish state

end Inspection.Json
