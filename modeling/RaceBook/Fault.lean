import RaceBook.Glicko.Volatility
import RaceBook.Pool
import RaceBook.Store.Book

/-!
# What can go wrong

* `Reference` : what was referred to and does not exist;
* `Violation` : a rule of the book that a request would break;
* `InvalidValue` : a value that no request may carry;
* `Constraint` : a rule that the store enforces on every row;
* `Fault` : all causes for which a request is refused.

The wording is in `RaceBook.Fault.Message`.
-/

namespace RaceBook

/-- Something that is referred to by number. -/
inductive Reference where
  | player (id : Int)
  | user (id : Int)
  | battle (id : Int)
  | period (id : Int)
  | participant (battle player : Int)
  deriving DecidableEq, Repr

/-- A rule of the book that a request would break. -/
inductive Violation where
  /-- A battle that ended cannot change. -/
  | battleEnded (battle : Int) (status : BattleStatus)
  | alreadyParticipates (player battle : Int)
  /-- The battle ended before the wager came. -/
  | wageringOver (battle : Int) (status : BattleStatus)
  /-- The wager came after closing time. -/
  | wageringClosed (battle : Int) (closesAt : Moment)
  | emptyTeam (team : Team) (battle : Int)
  | wagerSettled (wager : Int)
  | insufficientBalance (user balance : Int) (kind : EntryKind) (amount : Int)
  | severalOpenPeriods (periods : List Int)
  | noOpenPeriod (latest : Int) (status : PeriodStatus)
  deriving DecidableEq

/-- A value that no request may carry. -/
inductive InvalidValue where
  | team (number : Int)
  | stake (amount : Int)
  | poolStake (stake : Pool.BadStake)
  | publicKey (text : String)
  | emptyUsername
  | creditAmount (amount : Int)
  | debitAmount (amount : Int)
  | finishTime (tics : Int)
  | closesBeforeCreation (closesAt now : Moment)
  | endsBeforeStart (endedAt : Moment) (period : Int) (startedAt : Moment)
  | closedWithoutEnd (period : Int)
  /-- A level that no log has, in capitals. -/
  | logLevel (name : String)
  deriving DecidableEq

/-- A column that holds a number in every row. -/
inductive NumberColumn where
  | rating
  | deviation
  | volatility
  deriving DecidableEq, Repr

/-- A rule that the store enforces on every row. -/
inductive Constraint where
  | playerNumber (column : NumberColumn)
  | snapshotNumber (column : NumberColumn)
  | playerDeviationPositive
  | playerVolatilityPositive
  | snapshotDeviationPositive
  | snapshotVolatilityPositive
  | matchupCountNotNegative
  | uniqueUsername
  | uniqueSnapshot
  | uniqueOpenPeriod
  | uniqueSettlingEntry
  /-- What a row refers to exists. -/
  | reference
  deriving DecidableEq, Repr

/-- Why a request is refused. -/
inductive Fault (R : Type) where
  | notFound (what : Reference)
  | notConcluded (battle : Int)
  | violation (rule : Violation)
  | invalid (value : InvalidValue)
  | constraint (rule : Constraint)
  | rating (fault : Glicko.RatingFault R)
  /-- A moment outside the calendar. -/
  | calendar
  /-- A number that no row may hold. -/
  | outOfRange (n : Int)
  /-- A sum of entries that no row may hold. -/
  | sumOutOfRange (n : Int)
  /-- A correction of a wager that does not exist. -/
  | unknownWager (id : Int)
  /-- Periods without length never catch up with the clock. -/
  | endlessCatchUp
  deriving DecidableEq

end RaceBook
