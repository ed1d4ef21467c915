import EntitySql.Text.Digit
/-!
# Dates

Dates of the proleptic Gregorian calendar with years from -9999 to 9999. A date is its three
fields, checked when it is built; `Date.dayNumber` counts days from the first day of year one and
`Date.ofDayNumber?` goes back.

## Main definitions

* `Date`, `Date.ofFields?`.
* `Date.dayNumber`, `Date.ofDayNumber?`.
* `Date.text`: the fields with hyphens, the year of four digits behind its sign.
-/

namespace EntitySql.Calendar

open EntitySql.Text

/-- Whether a year has a 29th of February. -/
def isLeap (year : Int) : Bool :=
  year % 4 = 0 && (year % 100 != 0 || year % 400 = 0)

/-- The lengths of the months of a year. -/
def monthLengths (year : Int) : List Nat :=
  [31, if isLeap year then 29 else 28, 31, 30, 31, 30, 31, 31, 30, 31, 30, 31]

/-- The number of days of a month, zero if there is no such month. -/
def monthLength (year : Int) (month : Nat) : Nat :=
  if month = 0 then 0 else ((monthLengths year)[month - 1]?).getD 0

/-- A day of the calendar. -/
structure Date where
  year : Int
  month : Nat
  day : Nat
  year_le : year.natAbs ≤ 9999
  month_le : 1 ≤ month ∧ month ≤ 12
  day_le : 1 ≤ day ∧ day ≤ monthLength year month
  deriving DecidableEq

namespace Date

/-- The date with these fields, if there is one. -/
def ofFields? (year : Int) (month day : Nat) : Option Date :=
  if h : year.natAbs ≤ 9999 ∧ (1 ≤ month ∧ month ≤ 12)
      ∧ (1 ≤ day ∧ day ≤ monthLength year month) then
    some ⟨year, month, day, h.1, h.2.1, h.2.2⟩
  else none

/-- The number of days from the first day of year one to the first day of a year. -/
def daysBefore (year : Int) : Int :=
  let past := year - 1
  365 * past + past / 4 - past / 100 + past / 400

/-- The number of days of a year in front of a month. -/
def daysBeforeMonth (year : Int) (month : Nat) : Nat :=
  ((monthLengths year).take (month - 1)).foldr (· + ·) 0

/-- The number of days from the first day of year one. -/
def dayNumber (d : Date) : Int :=
  daysBefore d.year + daysBeforeMonth d.year d.month + (d.day - 1 : Nat)

/-- The month and the day of a day counted from zero within a list of months that starts with a
given one. -/
def monthAndDay (month : Nat) : List Nat → Nat → Nat × Nat
  | [], day => (month, day + 1)
  | length :: rest, day =>
      if day < length then (month, day + 1) else monthAndDay (month + 1) rest (day - length)

/-- The year of a day number, and the day within it counted from zero. Four centuries have
146097 days, of which the last century has one more than the others, and so on down to the single
years. -/
def yearAndDay (n : Int) : Int × Nat :=
  let cycle := n / 146097
  let inCycle := (n % 146097).toNat
  let century := min (inCycle / 36524) 3
  let inCentury := inCycle - century * 36524
  let four := inCentury / 1461
  let inFour := inCentury % 1461
  let single := min (inFour / 365) 3
  (400 * cycle + (100 * century + 4 * four + single : Nat) + 1, inFour - single * 365)

/-- The date of a day number, if its year is in range. -/
def ofDayNumber? (n : Int) : Option Date :=
  let (year, inYear) := yearAndDay n
  let (month, day) := monthAndDay 1 (monthLengths year) inYear
  ofFields? year month day

/-- The fields with hyphens; the year has a minus sign below zero and at least four digits. -/
def text (d : Date) : List Char :=
  (if d.year < 0 then ['-'] else []) ++ padded 4 d.year.natAbs ++ '-' :: padded 2 d.month
    ++ '-' :: padded 2 d.day

end Date

end EntitySql.Calendar
