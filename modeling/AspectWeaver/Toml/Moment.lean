import AspectWeaver.Toml.Number

/-!
# TOML dates and times

A date, a time, or a date with a time and perhaps an offset. A date must exist in the calendar; a minute
may have a sixty-first second. A fraction of a second is kept to nine digits.
-/

set_option autoImplicit false

namespace AspectWeaver.Toml

open Reader

/-- So many decimal digits, as a number behind the digits before. -/
def fixedDigits : Nat → Nat → Reader Nat
  | 0, value => pure value
  | count + 1, value => do
    let c ← satisfy isDigit
    fixedDigits count (value * 10 + Text.digitValue c)

/-- So many decimal digits for a number within bounds. -/
def fixedNumber (count low high : Nat) : Reader Nat := do
  let n ← fixedDigits count 0
  if low ≤ n && n ≤ high then pure n else failure

/-- Whether a year has a leap day. -/
def isLeapYear (year : Nat) : Bool := year % 4 == 0 && (year % 100 != 0 || year % 400 == 0)

/-- The number of days of a month. -/
def daysOf (year month : Nat) : Nat :=
  if month == 2 then (if isLeapYear year then 29 else 28)
  else if [4, 6, 9, 11].contains month then 30
  else 31

/-- A date. -/
def date : Reader Date := do
  let year ← fixedDigits 4 0
  char '-'
  let month ← fixedNumber 2 1 12
  char '-'
  let day ← fixedNumber 2 1 (daysOf year month)
  pure ⟨year, month, day⟩

/-- The fraction of a second in nanoseconds. -/
def secondFraction : Reader Nat := do
  char '.'
  let ds ← many1 (satisfy isDigit)
  let kept := ds.take 9
  pure (Text.numberOf 10 kept * Nat.pow 10 (9 - kept.length))

/-- A time of the day. -/
def time : Reader Time := do
  let hour ← fixedNumber 2 0 23
  char ':'
  let minute ← fixedNumber 2 0 59
  char ':'
  let second ← fixedNumber 2 0 60
  let nanosecond ← maybe secondFraction
  pure ⟨hour, minute, second, nanosecond.getD 0⟩

/-- The distance from universal time in minutes. -/
def offset : Reader Int :=
  (do let _ ← satisfy fun c => c == 'Z' || c == 'z'; pure 0) <|> do
    let c ← satisfy fun c => c == '+' || c == '-'
    let hour ← fixedNumber 2 0 23
    char ':'
    let minute ← fixedNumber 2 0 59
    pure (signed (c == '-') (hour * 60 + minute))

/-- The time behind a date, and its offset. -/
def timeOfDate : Reader (Time × Option Int) := do
  let _ ← satisfy fun c => c == 'T' || c == 't' || c == ' '
  let time ← time
  let offset ← maybe offset
  pure (time, offset)

/-- A date, a time or both. -/
def moment : Reader Item :=
  (do
    let date ← date
    let behind ← maybe timeOfDate
    pure (.moment ⟨some date, behind.map Prod.fst, behind.bind Prod.snd⟩))
  <|> do pure (.moment ⟨none, some (← time), none⟩)

end AspectWeaver.Toml
