import Inspection.Text.Decimal

/-! A decimal number is compared with the range of floating point exactly, from its digits alone. -/

namespace Inspection.Text

/-- The digits of a spelled number as one integer, and the power of ten that scales it. -/
structure Scientific where
  digits : List Char
  exponent : Int

namespace Scientific

/-- Whether a letter announces an exponent. -/
def isMark (letter : Char) : Bool := letter == 'e' || letter == 'E'

/-- A run of digits after an optional sign. -/
def signed : List Char → Int
  | '-' :: digits => -((digitsValue? digits).getD 0 : Nat)
  | '+' :: digits => ((digitsValue? digits).getD 0 : Nat)
  | digits => ((digitsValue? digits).getD 0 : Nat)

/-- The digits and the scale of a number as it is spelled, its sign left out. -/
def ofSpelling (spelling : List Char) : Scientific :=
  let unsigned := spelling.dropWhile fun letter => letter == '-' || letter == '+'
  let mantissa := unsigned.takeWhile fun letter => !isMark letter
  let whole := mantissa.takeWhile (· != '.')
  let fraction := (mantissa.dropWhile (· != '.')).drop 1
  let exponent := signed ((unsigned.dropWhile fun letter => !isMark letter).drop 1)
  ⟨(whole ++ fraction).dropWhile (· == '0'), exponent - fraction.length⟩

/-- The first number that rounds beyond the largest floating-point number of 64 bits. -/
def firstInfinite : Nat := (1 <<< 1024) - (1 <<< 970)

/-- Whether a number is within the range of floating point. -/
def isFinite (number : Scientific) : Bool :=
  match digitsValue? number.digits with
  | none => true
  | some digits =>
    -- The place of the leading digit decides all but the last order of magnitude.
    let magnitude := number.exponent + number.digits.length
    if magnitude ≤ 308 then true
    else if 310 ≤ magnitude then false
    else if 0 ≤ number.exponent then decide (digits * Nat.pow 10 number.exponent.toNat < firstInfinite)
    else decide (digits < firstInfinite * Nat.pow 10 (-number.exponent).toNat)

end Scientific

/-- Whether a spelled number is within the range of floating point. -/
def isFinite (spelling : List Char) : Bool := (Scientific.ofSpelling spelling).isFinite

end Inspection.Text
