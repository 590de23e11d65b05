import RaceBook.Arithmetic
import RaceBook.Calendar.Date

/-!
# Moments and durations

A moment is a number of ticks, one a microsecond, since the calendar began; a duration is a whole
number of ticks. Moments outside the years 1 to 9999 do not exist.

* `Moment.add?` : a moment some ticks later or earlier, if the calendar has it;
* `Moment.text` : `2024-02-29T12:00:00`, with six more digits when the second is not full;
* `Moment.ofText?` : a moment read from such text;
* `durationOf` : so many days or seconds as a duration.
-/

namespace RaceBook

def secondTicks : Nat := 1000000

def dayTicks : Nat := 86400000000

def calendarTicks : Nat := calendarDays * dayTicks

structure Moment where
  ticks : Nat
  inCalendar : ticks < calendarTicks
  deriving DecidableEq

namespace Moment

instance : LT Moment := ⟨fun m n => m.ticks < n.ticks⟩

instance : LE Moment := ⟨fun m n => m.ticks ≤ n.ticks⟩

instance (m n : Moment) : Decidable (m < n) := inferInstanceAs (Decidable (m.ticks < n.ticks))

instance (m n : Moment) : Decidable (m ≤ n) := inferInstanceAs (Decidable (m.ticks ≤ n.ticks))

/-- The moment of a number of ticks, if the calendar has it. -/
def ofTicks? (ticks : Int) : Option Moment :=
  if h : 0 ≤ ticks ∧ ticks < calendarTicks then some ⟨ticks.toNat, by omega⟩ else none

def add? (m : Moment) (duration : Int) : Option Moment := ofTicks? (m.ticks + duration)

def since (m start : Moment) : Int := m.ticks - start.ticks

/-- A moment as date, separator and time of day. -/
def textWith (separator : String) (m : Moment) : String :=
  let inDay := m.ticks % dayTicks
  let seconds := inDay / secondTicks
  let fraction := inDay % secondTicks
  (Date.ofDayNumber (m.ticks / dayTicks)).text ++ separator ++
    zeroPadded 2 (seconds / 3600) ++ ":" ++ zeroPadded 2 (seconds / 60 % 60) ++ ":" ++
    zeroPadded 2 (seconds % 60) ++
    (if fraction = 0 then "" else "." ++ zeroPadded 6 fraction)

/-- A moment in the notation of data. -/
def text (m : Moment) : String := m.textWith "T"

/-- A moment in running text. -/
def inWords (m : Moment) : String := m.textWith " "

def ofClock (hour minute second fraction : Nat) : Nat :=
  ((hour * 60 + minute) * 60 + second) * secondTicks + fraction

def ofDate? (d : Date) (inDay : Nat) : Option Moment :=
  if d.isValid then ofTicks? ((d.dayNumber * dayTicks + inDay : Nat) : Int) else none

def ofText? (s : String) : Option Moment := do
  let [date, time] := s.splitOn "T" | none
  let [year, month, day] := date.splitOn "-" | none
  let clock :: fraction := time.splitOn "." | none
  let [hour, minute, second] := clock.splitOn ":" | none
  let fraction ← match fraction with
    | [] => some 0
    | [digits] => if digits.length = 6 then digits.toNat? else none
    | _ => none
  ofDate? ⟨← year.toNat?, ← month.toNat?, ← day.toNat?⟩
    (ofClock (← hour.toNat?) (← minute.toNat?) (← second.toNat?) fraction)

end Moment

/-- A duration has less than a thousand million days, before or after. -/
def isDuration (ticks : Int) : Bool :=
  -999999999 * (dayTicks : Int) ≤ ticks && ticks < 1000000000 * (dayTicks : Int)

/-- So many units of `perUnit` ticks as a duration. -/
def durationOf {R : Type} [Arithmetic R] (perUnit : Nat) (x : R) : Except NumberFault Int := do
  let ticks ← Arithmetic.wholeTicks perUnit x
  if isDuration ticks then return ticks else throw .overflow

end RaceBook
