import RaceBook.Calendar.Moment
import RaceBook.Glicko.Parameters

/-!
# Configurations

A configuration names one deployment and fixes the rating parameters, when a cancelled battle
still counts, how long after closing a wager is still taken, and what a new user starts with.
-/

namespace RaceBook

/-- The settings of one deployment. -/
structure Config (R : Type) where
  name : String
  description : Option String
  glicko : Glicko.Parameters R
  /-- A cancelled battle counts toward ratings when it ran longer than so many tics. -/
  minCancelledFinish : Int
  /-- For so many seconds after closing a wager is still taken. -/
  graceSeconds : R
  startingBalance : Int
  deriving DecidableEq, Repr

namespace Config

variable {R : Type} [Arithmetic R]

/-- The usual settings: thirty seconds, at 35 tics a second, make a cancelled battle count. -/
def standard : Config R where
  name := "default"
  description := none
  glicko := .standard
  minCancelledFinish := 35 * 30
  graceSeconds := 3.0
  startingBalance := 400

def periodLength (c : Config R) : Except NumberFault Int := durationOf dayTicks c.glicko.periodDays

end Config

end RaceBook
