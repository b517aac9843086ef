/-!
# `Fleet.Time.Calendar`: dates of the Gregorian calendar

Days are counted from 1 January of year 0, and the calendar is extended to all years, also
negative ones. `Date.toDay` counts the days before a date and `Date.ofDay` finds the date
with a given count. The year of a day is guessed from the mean length of a year; the guess
is off by at most one, which `yearOfDay` repairs.
-/

set_option autoImplicit false

namespace Fleet.Time

/-- A day of a year: month and day count from one. -/
structure Date where
  /-- The year, zero and negative ones included. -/
  year : Int
  /-- The month, from 1 to 12. -/
  month : Nat
  /-- The day of the month, from 1. -/
  day : Nat
deriving DecidableEq, Repr

/-- Whether a year has 366 days. -/
def isLeapYear (y : Int) : Bool := y % 4 == 0 && (y % 100 != 0 || y % 400 == 0)

/-- The lengths of the twelve months of a year. -/
def monthLengths (y : Int) : List Nat :=
  [31, if isLeapYear y then 29 else 28, 31, 30, 31, 30, 31, 31, 30, 31, 30, 31]

/-- The number of days of a month, zero if there is no such month. -/
def daysInMonth (y : Int) (month : Nat) : Nat :=
  if month = 0 then 0 else ((monthLengths y)[month - 1]?).getD 0

/-- The days between 1 January of year 0 and 1 January of a year. -/
def daysBeforeYear (y : Int) : Int :=
  365 * y + (y + 3) / 4 - (y + 99) / 100 + (y + 399) / 400

/-- The year that holds a day. -/
def yearOfDay (n : Int) : Int :=
  let guess := 400 * n / 146097
  if n < daysBeforeYear guess then guess - 1
  else if daysBeforeYear (guess + 1) ≤ n then guess + 1
  else guess

/-- The month and the day of the month of the `k`-th day of a year, where `lengths` holds the
lengths of the months from `month` on. -/
def monthOfDay (month : Nat) : (lengths : List Nat) → (k : Nat) → Nat × Nat
  | [], k => (month, k + 1)
  | len :: rest, k => if k < len then (month, k + 1) else monthOfDay (month + 1) rest (k - len)

namespace Date

/-- Whether the month exists and has the day. -/
def isValid (d : Date) : Bool := 1 ≤ d.day && d.day ≤ daysInMonth d.year d.month

/-- The days of the year before the month. -/
def daysBeforeMonth (d : Date) : Nat :=
  ((monthLengths d.year).take (d.month - 1)).foldr (· + ·) 0

/-- The days between 1 January of year 0 and the date. -/
def toDay (d : Date) : Int := daysBeforeYear d.year + d.daysBeforeMonth + d.day - 1

/-- The date that lies `n` days after 1 January of year 0. -/
def ofDay (n : Int) : Date :=
  let y := yearOfDay n
  let (month, day) := monthOfDay 1 (monthLengths y) (n - daysBeforeYear y).toNat
  ⟨y, month, day⟩

/-- Whether the date is the last day of its month. -/
def isMonthEnd (d : Date) : Bool := d.day == daysInMonth d.year d.month

end Date

/-- The count of 1 January 1970. -/
def epochDay : Int := daysBeforeYear 1970

end Fleet.Time
