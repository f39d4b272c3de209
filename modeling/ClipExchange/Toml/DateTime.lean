import ClipExchange.Text.Decimal
import ClipExchange.Toml.Reader

/-!
# TOML dates and times

A date, a time, or both with a delimiter between them, and then perhaps an offset. The parts
have to be in their ranges, the day in that of its month. No one asks for their values.

## Main definitions

* `Toml.daysIn`: the days of a month.
* `Toml.Reader.dateTime`: a date, a time or both.
-/

namespace ClipExchange

namespace Toml

/-- Whether a year has a leap day. -/
def isLeapYear (year : Nat) : Bool :=
  year % 4 = 0 && (year % 100 ≠ 0 || year % 400 = 0)

/-- The days of a month. -/
def daysIn (year month : Nat) : Nat :=
  if month = 2 then (if isLeapYear year then 29 else 28)
  else if month ∈ [4, 6, 9, 11] then 30
  else 31

namespace Reader

/-- A number in a given count of digits, within bounds. -/
def fixedNumber (count low high : Nat) : Reader Nat := fun input =>
  let digits := input.take count
  let n := Decimal.value digits
  if digits.length = count ∧ digits.all Decimal.isDigit ∧ low ≤ n ∧ n ≤ high then
    some (n, input.drop count)
  else none

/-- A date. -/
def date : Reader Unit := do
  let year ← fixedNumber 4 0 9999
  char '-'
  let month ← fixedNumber 2 1 12
  char '-'
  let _ ← fixedNumber 2 1 (daysIn year month)

/-- A time. -/
def time : Reader Unit := do
  let _ ← fixedNumber 2 0 23
  char ':'
  let _ ← fixedNumber 2 0 59
  char ':'
  let _ ← fixedNumber 2 0 60
  if ← skip? ['.'] then
    let _ ← some₁ Decimal.isDigit

/-- The offset of a time. -/
def offset : Reader Unit := do
  let c ← satisfying fun c => c = 'Z' || c = 'z' || c = '+' || c = '-'
  if c = '+' ∨ c = '-' then
    let _ ← fixedNumber 2 0 23
    char ':'
    let _ ← fixedNumber 2 0 59

/-- A time behind a date. -/
def timeAfterDate : Reader Unit := do
  let _ ← satisfying fun c => c = 'T' || c = 't' || c = ' '
  time
  let _ ← optional offset

/-- A date, a time or both. -/
def dateTime : Reader Unit :=
  either (do
    date
    let _ ← optional timeAfterDate) time

end Reader

end Toml

end ClipExchange
