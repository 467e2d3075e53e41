import Inspection.Text.Decimal
import Inspection.Toml
import Inspection.Toml.Reader

/-! Dates are days of the calendar, times run up to a leap second, and offsets follow times. -/

namespace Inspection.Toml.Reader

/-- Takes a number of a fixed count of digits within bounds. -/
def fixedNumber (count least most : Nat) : Reader Nat := do
  let value ← Text.digitsValue? (← take count)
  if least ≤ value ∧ value ≤ most then return value else failure

/-- Whether a year has a leap day. -/
def isLeapYear (year : Nat) : Bool :=
  year % 4 == 0 && (year % 100 != 0 || year % 400 == 0)

/-- The number of days in a month, counted from one. -/
def daysIn (year month : Nat) : Nat :=
  if month = 2 then (if isLeapYear year then 29 else 28)
  else if month = 4 ∨ month = 6 ∨ month = 9 ∨ month = 11 then 30
  else 31

/-- Takes a date. -/
def date : Reader Unit := do
  let year ← fixedNumber 4 0 9999
  exactly ['-']
  let month ← fixedNumber 2 1 12
  exactly ['-']
  let _ ← fixedNumber 2 1 (daysIn year month)

/-- Takes a fraction of a second. -/
def secondFraction : Reader Unit := do
  exactly ['.']
  let digits ← run Char.isDigit
  if digits.isEmpty then failure

/-- Takes hours and minutes. -/
def hoursAndMinutes : Reader Unit := do
  let _ ← fixedNumber 2 0 23
  exactly [':']
  let _ ← fixedNumber 2 0 59

/-- Takes a time of day. -/
def timeOfDay : Reader Unit := do
  hoursAndMinutes
  exactly [':']
  let _ ← fixedNumber 2 0 60
  let _ ← optionally secondFraction

/-- Takes the distance from universal time. -/
def offset : Reader Unit :=
  (do let _ ← one fun letter => letter == 'Z' || letter == 'z') <|> do
    let _ ← one fun letter => letter == '+' || letter == '-'
    hoursAndMinutes

/-- Takes a time that follows a date. -/
def timeAfterDate : Reader Unit := do
  let _ ← one fun letter => letter == 'T' || letter == 't' || letter == ' '
  timeOfDay
  let _ ← optionally offset

/-- Takes a date, a date with a time, or a time. -/
def moment : Reader Toml :=
  Toml.moment <$> spelling ((do
    date
    let _ ← optionally timeAfterDate) <|> timeOfDay)

end Inspection.Toml.Reader
