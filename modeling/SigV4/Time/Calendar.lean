/-
  The CALENDAR: days counted from the first of January of the year 1.

  Years run from 1 to 9999 in the rule that is in force today, with a leap day in every fourth year,
  except in three of four centuries.

  1. **Counting** — `dayNumber` counts the days up to a date; the first one is day 1.
  2. **Naming** — `ofDayNumber` finds the date of a day: the year by trying the two that its number
     allows, the month by taking off the months before it.
-/

namespace SigV4

/-- A date of the calendar. -/
structure Date where
  year : Nat
  month : Nat
  day : Nat
deriving DecidableEq, Repr

namespace Date

/-- Whether a year has a leap day. -/
def isLeap (year : Nat) : Bool := year % 4 == 0 && (year % 100 != 0 || year % 400 == 0)

/-- How many days a month has. -/
def daysInMonth (year month : Nat) : Nat :=
  if month = 2 then if isLeap year then 29 else 28
  else if month = 4 ∨ month = 6 ∨ month = 9 ∨ month = 11 then 30
  else 31

/-- How many days lie before a year. -/
def daysBeforeYear (year : Nat) : Nat :=
  let y := year - 1
  365 * y + y / 4 - y / 100 + y / 400

/-- How many days of a year lie before a month. -/
def daysBeforeMonth (year month : Nat) : Nat :=
  (List.range (month - 1)).foldl (fun days m => days + daysInMonth year (m + 1)) 0

/-- The number of a date. -/
def dayNumber (d : Date) : Nat := daysBeforeYear d.year + daysBeforeMonth d.year d.month + d.day

/-- The number of the last day of the year 9999. -/
def lastDay : Nat := 3652059

/-- The month and day of a day within a year, counted from zero and from `month` on. -/
def monthDay (year : Nat) : List Nat → Nat → Nat × Nat
  | [], rest => (12, rest + 1)
  | month :: months, rest =>
    if rest < daysInMonth year month then (month, rest + 1)
    else monthDay year months (rest - daysInMonth year month)

/-- The date of a day number. -/
def ofDayNumber (n : Nat) : Date :=
  let guess := n / 366 + 1
  let year := ((List.range 30).map (guess + ·)).foldl
    (fun best y => if daysBeforeYear y < n then y else best) guess
  let (month, day) := monthDay year [1, 2, 3, 4, 5, 6, 7, 8, 9, 10, 11, 12]
    (n - daysBeforeYear year - 1)
  ⟨year, month, day⟩

end Date

end SigV4
