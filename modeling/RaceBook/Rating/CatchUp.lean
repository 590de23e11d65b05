import RaceBook.Rating.Close

/-!
# Catching up with the clock

Periods have a fixed length. `Session.closeElapsed` closes, one after the other, every period
whose full length is over, each as a close of its own that ends exactly one length after it
started. Without any period it opens the first one.

`Session.dueEnd?` and `Session.closeDue` are one round of it. When periods have a length, each
round moves the latest start forward by that much, so `roundsUntil` bounds the number of rounds.
-/

namespace RaceBook.Session

variable {R : Type} [Arithmetic R]

/-- The latest period and its end, when it is not closed and its full length is over. -/
def dueEnd? (length : Int) (now : Moment) : Session R (Option (Int × Moment)) := do
  match ← read (·.latestPeriod?) with
  | none => return none
  | some last =>
    if last.data.status = .closed then return none
    let stop ← demand (last.data.startedAt.add? length) .calendar
    return if now < stop then none else some (last.id, stop)

def closeDue (config : Config R) (length : Int) (now : Moment) :
    Session R (Option ClosingSummary) := do
  match ← dueEnd? length now with
  | none => return none
  | some (id, stop) => closePeriod config (some id) stop

/-- Closes periods until the latest one has not run its full length, in at most so many
rounds. -/
def closeDueRepeatedly (config : Config R) (length : Int) (now : Moment) :
    (rounds : Nat) → Session R (List ClosingSummary)
  | 0 => do
    check (← dueEnd? length now).isNone .endlessCatchUp
    return []
  | rounds + 1 => do
    match ← closeDue config length now with
    | none => return []
    | some summary => return summary :: (← closeDueRepeatedly config length now rounds)

/-- The rounds that end before a start of periods of the given length passes the clock. A single
round shows that periods without length never do. -/
def roundsUntil (start now : Moment) (length : Int) : Nat :=
  if length ≤ 0 then 1 else (now.since start / length + 1).toNat

/-- Opens the first period, if there is none at all, and gives the open one. -/
def openFirstPeriod (now : Moment) : Session R (Row Period) := atomically (ensureOpenPeriod now)

/-- Closes every period whose full length is over. -/
def closeElapsed (config : Config R) (now : Moment) : Session R (List ClosingSummary) := do
  let length ← config.periodLength
  match ← read (·.latestPeriod?) with
  | none =>
    let _ ← openFirstPeriod now
    return []
  | some last =>
    closeDueRepeatedly config length now (roundsUntil last.data.startedAt now length)

end RaceBook.Session
