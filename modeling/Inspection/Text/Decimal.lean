/-! Decimal numbers are runs of ASCII digits; machine numbers also bound their value. -/

namespace Inspection.Text

/-- The value of a digit run, most significant digit first; nothing else counts as a digit. -/
def digitsValue? (digits : List Char) : Option Nat :=
  if digits.isEmpty then none
  else digits.foldlM (fun value digit =>
    if digit.isDigit then some (value * 10 + (digit.toNat - '0'.toNat)) else none) 0

/-- A natural number of 64 bits, written in digits after an optional plus sign. -/
def natural64? (letters : List Char) : Option Nat :=
  let digits := match letters with
    | '+' :: digits => digits
    | digits => digits
  (digitsValue? digits).filter (· < 0x10000000000000000)

end Inspection.Text
