import BpmpMailbox.Toml.Number

/-!
# Dates and times

A date is a year, a month and a day that the month has. A time is hours,
minutes and seconds, with or without a fraction. Between the two stands a
letter or a space, and after both the offset of the clock may follow.

## Main definitions

* `daysIn`: The number of days of a month.
* `momentValue`: A date, a time, or both.
-/

namespace BpmpMailbox

namespace Toml

open Scan

/-- Whether a year has a leap day. -/
def isLeapYear (year : Nat) : Bool := year % 4 = 0 && (year % 100 ≠ 0 || year % 400 = 0)

/-- The number of days of a month. -/
def daysIn (year month : Nat) : Nat :=
  if month = 2 then if isLeapYear year then 29 else 28
  else if month = 4 ∨ month = 6 ∨ month = 9 ∨ month = 11 then 30
  else 31

/-- A number of a fixed number of digits within bounds. -/
def bounded (count low high : Nat) : Scan Nat := do
  let digits ← exactly isDecimalDigit count
  let n := digitsValue 10 digits
  if low ≤ n ∧ n ≤ high then pure n else fail

/-- A day of the calendar. -/
def date : Scan Date := do
  let year ← bounded 4 0 9999
  char '-'
  let month ← bounded 2 1 12
  char '-'
  let day ← bounded 2 1 31
  if day ≤ daysIn year month then pure ⟨year, month, day⟩ else fail

/-- A time of day. -/
def time : Scan Time := do
  let hour ← bounded 2 0 23
  char ':'
  let minute ← bounded 2 0 59
  char ':'
  let second ← bounded 2 0 60
  let fraction ← optional (char '.' *> many1 (satisfy isDecimalDigit))
  pure ⟨hour, minute, second, fraction.getD []⟩

/-- The offset of a clock. -/
def offset : Scan Offset :=
  ((char 'Z' <|> char 'z') *> pure .universal) <|> do
    let negative ← sign
    let hours ← bounded 2 0 23
    char ':'
    let minutes ← bounded 2 0 59
    let ahead : Int := 60 * hours + minutes
    pure (.minutes (if negative then -ahead else ahead))

/-- A date, a time, or both. -/
def momentValue : Scan Moment :=
  (do
    let d ← date
    let rest ← optional do
      char 'T' <|> char 't' <|> char ' '
      let t ← time
      let o ← optional offset
      pure (t, o)
    match rest with
    | some (t, o) => pure (.both d t o)
    | none => pure (.date d)) <|>
  .time <$> time

end Toml

end BpmpMailbox
