import Presence.Toml.Number

/-!
# Dates and times

A moment is a date, a time of day, or both; with both, it may say how far the clock is from
universal time. Days are checked against the calendar, and a minute may have a leap second.
-/

namespace Presence.Toml

open Scan

/-- A day of the calendar. -/
structure Date where
  year : Nat
  /-- The month, from one. -/
  month : Nat
  /-- The day of the month, from one. -/
  day : Nat
deriving DecidableEq, Inhabited

/-- A time of day. -/
structure Time where
  hour : Nat
  minute : Nat
  /-- The second of the minute, sixty being a leap second. -/
  second : Nat
  /-- The part of the second that has passed, in billionths. -/
  billionths : Nat
deriving DecidableEq, Inhabited

/-- A point in time, as far as it is given. -/
inductive Moment where
  | date (date : Date)
  | time (time : Time)
  /-- A time on a day, with the minutes that the clock is ahead of universal time if given. -/
  | dateTime (date : Date) (time : Time) (offset : Option Int)
deriving DecidableEq, Inhabited

/-- Whether a year has a leap day. -/
def isLeap (year : Nat) : Bool := year % 4 = 0 && (year % 100 ≠ 0 || year % 400 = 0)

/-- The number of days in a month. -/
def daysIn (year month : Nat) : Nat :=
  if month = 2 then if isLeap year then 29 else 28
  else if month = 4 ∨ month = 6 ∨ month = 9 ∨ month = 11 then 30
  else 31

/-- Reads a number of so many digits, which lies between bounds. -/
def numberWithin (digits least greatest : Nat) : Scan Nat := do
  let chars ← exactlyMany (isDigitIn 10) digits
  let number := valueIn 10 chars
  if least ≤ number ∧ number ≤ greatest then return number else failure

/-- Reads a date. -/
def date : Scan Date := do
  let year ← numberWithin 4 0 9999
  let _ ← exactly '-'
  let month ← numberWithin 2 1 12
  let _ ← exactly '-'
  let day ← numberWithin 2 1 (daysIn year month)
  return { year, month, day }

/-- Reads an hour and a minute. -/
def hourAndMinute : Scan (Nat × Nat) := do
  let hour ← numberWithin 2 0 23
  let _ ← exactly ':'
  let minute ← numberWithin 2 0 59
  return (hour, minute)

/-- Reads the part of a second behind the point; digits past the ninth are dropped. -/
def billionths : Scan Nat := do
  let _ ← exactly '.'
  let first ← one (isDigitIn 10)
  let others ← span (isDigitIn 10)
  let places := (first :: others).take 9
  return valueIn 10 places * Nat.pow 10 (9 - places.length)

/-- Reads a time of day. -/
def time : Scan Time := do
  let (hour, minute) ← hourAndMinute
  let _ ← exactly ':'
  let second ← numberWithin 2 0 60
  let part ← optional billionths
  return { hour, minute, second, billionths := part.getD 0 }

/-- Reads how far the clock is ahead of universal time, in minutes. -/
def offset : Scan Int :=
  (exactly 'Z' <|> exactly 'z') *> pure 0 <|> do
    let char ← exactly '+' <|> exactly '-'
    let (hour, minute) ← hourAndMinute
    return withSign (char = '-') (60 * hour + minute)

/-- Reads the time behind a date. -/
def timeOfDate : Scan (Time × Option Int) := do
  let _ ← exactly 'T' <|> exactly 't' <|> exactly ' '
  let time ← time
  let offset ← optional offset
  return (time, offset)

/-- Reads a date and the time behind it, if there is one. -/
def dateAndTime : Scan Moment := do
  let date ← date
  match ← optional timeOfDate with
  | none => return .date date
  | some (time, offset) => return .dateTime date time offset

/-- Reads a moment. -/
def moment : Scan Moment := dateAndTime <|> Moment.time <$> time

end Presence.Toml
