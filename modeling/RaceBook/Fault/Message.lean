import RaceBook.Fault
import RaceBook.Number.Notation
import RaceBook.Text.Quoted

/-!
# The wording of refusals

`Fault.message` is the text that goes with a refusal over doubles. Numbers are written with the
fewest digits that read back, the width of a bracket with three significant digits.
-/

namespace RaceBook

def Reference.inWords : Reference → String
  | .player id => s!"player {id}"
  | .user id => s!"user {id}"
  | .battle id => s!"battle {id}"
  | .period id => s!"rating period {id}"
  | .participant battleId playerId => s!"participant ({battleId}, {playerId})"

def Violation.message : Violation → String
  | .battleEnded battle status =>
    s!"battle_id={battle} is {status.name} and can no longer change"
  | .alreadyParticipates player battle =>
    s!"player_id={player} already participates in battle_id={battle}"
  | .wageringOver battle status =>
    s!"wagers have closed for battle_id={battle} ({status.name})"
  | .wageringClosed battle closesAt =>
    s!"wagers closed for battle_id={battle} at {closesAt.inWords}"
  | .emptyTeam team battle => s!"team {team.callName} has no participants in battle_id={battle}"
  | .wagerSettled wager => s!"wager_id={wager} is already settled"
  | .insufficientBalance user balance kind amount =>
    s!"user_id={user} balance {balance} cannot absorb {kind.name} of {amount}"
  | .severalOpenPeriods periods =>
    s!"{periods.length} rating periods are open: {Text.bracketed (periods.map toString)}"
  | .noOpenPeriod latest status =>
    s!"no open rating period; latest period_id={latest} is {status.name}"

def InvalidValue.message : InvalidValue → String
  | .team number => s!"{number} is not a valid Team"
  | .stake amount => s!"stake must be > 0, got {amount}"
  | .poolStake bad => s!"wager_id={bad.wager} has non-positive stake {bad.amount}"
  | .publicKey text => s!"public_key must be 64 hex characters, got {Text.quoted text}"
  | .emptyUsername => "username must not be empty"
  | .creditAmount amount => s!"credit amount must be >= 0, got {amount}"
  | .debitAmount amount => s!"debit amount must be >= 0, got {amount}"
  | .finishTime tics => s!"finish_time must be >= 0, got {tics}"
  | .closesBeforeCreation closesAt now =>
    s!"closes_at={closesAt.inWords} is before creation time {now.inWords}"
  | .endsBeforeStart endedAt period startedAt =>
    s!"ended_at={endedAt.inWords} precedes period_id={period} start {startedAt.inWords}"
  | .closedWithoutEnd period => s!"period_id={period} is closed without an ended_at"
  | .logLevel name => s!"Unknown level: {Text.quoted name}"

def NumberColumn.name : NumberColumn → String
  | rating => "rating"
  | deviation => "deviation"
  | volatility => "volatility"

def Constraint.message : Constraint → String
  | .playerNumber column => s!"NOT NULL constraint failed: players.{column.name}"
  | .snapshotNumber column => s!"NOT NULL constraint failed: ratings.{column.name}"
  | .playerDeviationPositive => "CHECK constraint failed: ck_players_deviation"
  | .playerVolatilityPositive => "CHECK constraint failed: ck_players_volatility"
  | .snapshotDeviationPositive => "CHECK constraint failed: ck_ratings_deviation"
  | .snapshotVolatilityPositive => "CHECK constraint failed: ck_ratings_volatility"
  | .matchupCountNotNegative => "CHECK constraint failed: ck_ratings_matchup_count"
  | .uniqueUsername => "UNIQUE constraint failed: users.username"
  | .uniqueSnapshot => "UNIQUE constraint failed: ratings.period_id, ratings.player_id"
  | .uniqueOpenPeriod => "UNIQUE constraint failed: rating_periods.status"
  | .uniqueSettlingEntry => "UNIQUE constraint failed: wagers.settlement_transaction_id"
  | .reference => "FOREIGN KEY constraint failed"

def NumberFault.message : NumberFault → String
  | .overflow => "the result is too large"
  | .divisionByZero => "division by zero"
  | .domain => "math domain error"
  | .notANumber => "cannot convert float NaN to integer"

def Glicko.RatingFault.message : Glicko.RatingFault Float → String
  | .number fault => fault.message
  | .unbracketed => "Glicko-2 volatility solve failed to bracket root."
  | .notConverged limit gap =>
    s!"Glicko-2 volatility solve did not converge in {limit} iterations " ++
      s!"(|b - a|={Number.general 3 gap})."
  | .fractionOutOfRange fraction =>
    s!"fractional_period must be within [0, 1], got {Number.shortest fraction}"
  | .selfPairing battle player =>
    s!"battle_id={battle} pairs player_id={player} against themself"

def Fault.message : Fault Float → String
  | .notFound what => s!"{what.inWords} not found"
  | .notConcluded battle => s!"battle_id={battle} has not concluded"
  | .violation rule => rule.message
  | .invalid value => value.message
  | .constraint rule => rule.message
  | .rating fault => fault.message
  | .calendar => "the date is outside the calendar"
  | .outOfRange n => s!"no row may hold the number {n}"
  | .sumOutOfRange _ => "integer overflow"
  | .unknownWager id => s!"wager {id} not found"
  | .endlessCatchUp => "periods without length never catch up with the clock"

end RaceBook
