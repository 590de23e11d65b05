/-!
# Dates

The calendar of the years 1 to 9999, counted in days from the first of January of year 1.

* `Date.isValid`, `daysInMonth`, `isLeap`;
* `Date.dayNumber` and `Date.ofDayNumber` : a date as the number of days before it, and back;
* `Date.text` : `2024-02-29`.
-/

namespace RaceBook

/-- Decimal digits with zeros in front, up to a width. -/
def zeroPadded (width n : Nat) : String :=
  let digits := Nat.toDigits 10 n
  String.ofList (List.replicate (width - digits.length) '0' ++ digits)

structure Date where
  year : Nat
  month : Nat
  day : Nat
  deriving DecidableEq, Repr

namespace Date

/-- Every fourth year is a leap year, except for full centuries that 400 does not divide. -/
def isLeap (year : Nat) : Bool := year % 4 = 0 && (year % 100 ≠ 0 || year % 400 = 0)

def monthLengths (year : Nat) : List Nat :=
  [31, if isLeap year then 29 else 28, 31, 30, 31, 30, 31, 31, 30, 31, 30, 31]

/-- The length of a month, zero for a month that does not exist. -/
def daysInMonth (year month : Nat) : Nat :=
  if month = 0 then 0 else (monthLengths year).getD (month - 1) 0

def isValid (d : Date) : Bool :=
  1 ≤ d.year && d.year ≤ 9999 && 1 ≤ d.day && d.day ≤ daysInMonth d.year d.month

def daysBeforeYear (year : Nat) : Nat :=
  let y := year - 1
  365 * y + y / 4 - y / 100 + y / 400

def daysBeforeMonth (year month : Nat) : Nat :=
  ((monthLengths year).take (month - 1)).foldl (· + ·) 0

/-- The number of days from the first day of the calendar to a date. -/
def dayNumber (d : Date) : Nat :=
  daysBeforeYear d.year + daysBeforeMonth d.year d.month + (d.day - 1)

/-- The month, from one, and the day in it, of a day counted from zero through the months of the
given lengths; `month` is the first of them. -/
def inMonths (day month : Nat) : List Nat → Nat × Nat
  | [] => (month, day + 1)
  | length :: rest =>
    if day < length then (month, day + 1) else inMonths (day - length) (month + 1) rest

/-- The date of a day number. Four centuries, a century and four years each have a fixed length,
but for a last day that some of them have in addition. -/
def ofDayNumber (n : Nat) : Date :=
  let era := n / 146097
  let inEra := n % 146097
  let century := min (inEra / 36524) 3
  let inCentury := inEra - century * 36524
  let quad := inCentury / 1461
  let inQuad := inCentury % 1461
  let yearInQuad := min (inQuad / 365) 3
  let year := 400 * era + 100 * century + 4 * quad + yearInQuad + 1
  let (month, day) := inMonths (inQuad - yearInQuad * 365) 1 (monthLengths year)
  ⟨year, month, day⟩

def text (d : Date) : String :=
  zeroPadded 4 d.year ++ "-" ++ zeroPadded 2 d.month ++ "-" ++ zeroPadded 2 d.day

end Date

/-- The number of days of the years 1 to 9999. -/
def calendarDays : Nat := 3652059

end RaceBook
