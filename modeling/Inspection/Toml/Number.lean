import Inspection.Text.Scientific
import Inspection.Toml
import Inspection.Toml.Reader

/-! Numbers may be grouped by underscores; integers have 64 bits and floats are not too large. -/

namespace Inspection.Toml.Reader

/-- Takes a run of digits in which single underscores may stand between digits. -/
def digitRun (isDigit : Char → Bool) : Reader (List Char) := do
  let first ← one isDigit
  let others ← many (one isDigit <|> do
    exactly ['_']
    one isDigit)
  return first :: others

/-- Takes a zero, or a run of decimal digits that starts with none. -/
def wholeDigits : Reader (List Char) := do
  match ← peek with
  | some '0' =>
    exactly ['0']
    return ['0']
  | _ => digitRun Char.isDigit

/-- Takes a sign, if there is one. -/
def sign : Reader (List Char) := do
  return (← optionally (one fun letter => letter == '+' || letter == '-')).toList

/-- The value of a digit in a base of at most sixteen. -/
def digitIn? (base : Nat) (letter : Char) : Option Nat :=
  let value? :=
    if letter.isDigit then some (letter.toNat - '0'.toNat)
    else if letter.isAlpha then some (letter.toLower.toNat - 'a'.toNat + 10)
    else none
  value?.filter (· < base)

/-- Takes an integer in another base than ten, which its mark announces. -/
def basedInteger (mark : Char) (base : Nat) : Reader Int := do
  exactly ['0', mark]
  let digits ← digitRun fun letter => (digitIn? base letter).isSome
  let value := digits.foldl (fun value digit => value * base + (digitIn? base digit).getD 0) 0
  if value < 0x8000000000000000 then return value else failure

/-- Takes an integer in decimal digits. -/
def decimalInteger : Reader Int := do
  let sign ← sign
  let digits ← wholeDigits
  let magnitude ← Text.digitsValue? digits
  let value : Int := if sign = ['-'] then -magnitude else magnitude
  if -0x8000000000000000 ≤ value ∧ value < 0x8000000000000000 then return value else failure

/-- Takes an integer. -/
def integerNumber : Reader Int :=
  basedInteger 'x' 16 <|> basedInteger 'o' 8 <|> basedInteger 'b' 2 <|> decimalInteger

/-- Takes the fraction of a float. -/
def fractionPart : Reader (List Char) := do
  exactly ['.']
  return '.' :: (← digitRun Char.isDigit)

/-- Takes the exponent of a float. -/
def exponentPart : Reader (List Char) := do
  let _ ← one Text.Scientific.isMark
  return 'e' :: ((← sign) ++ (← digitRun Char.isDigit))

/-- Takes a float in digits; beyond the range of floating point only negative ones are admitted. -/
def digitFloat : Reader String := do
  let sign ← sign
  let whole ← wholeDigits
  let tail ← exponentPart <|> do
    let fraction ← fractionPart
    let exponent ← optionally exponentPart
    return fraction ++ exponent.getD []
  let letters := sign ++ whole ++ tail
  if sign = ['-'] || Text.isFinite letters then return String.ofList letters else failure

/-- Takes a float that is no number of digits. -/
def namedFloat : Reader String :=
  spelling do
    let _ ← sign
    exactly ['i', 'n', 'f'] <|> exactly ['n', 'a', 'n']

/-- Takes a number of either kind. -/
def number : Reader Toml :=
  Toml.float <$> (digitFloat <|> namedFloat) <|> Toml.integer <$> integerNumber

end Inspection.Toml.Reader
