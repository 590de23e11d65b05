import RaceBook.Config.Basic
import RaceBook.Rating.Matchup

/-!
# Closing a rating period

A period is first marked as closing, which stays when the rest is refused. Then, all or nothing,
every player who was rated before or had a matchup in the period gets a snapshot, the period
closes, and the next one opens where it ended. A player whose volatility cannot be solved is
skipped.

* `Assessment`, `Book.assess` : what a close finds for one player;
* `ClosingSummary` : what a close did;
* `Session.closePeriod`.
-/

namespace RaceBook

/-- What a close did, or what is recorded of an earlier one. -/
structure ClosingSummary where
  closed : Int
  /-- The period opened in its place. -/
  next : Option Int
  startedAt : Moment
  endedAt : Moment
  ratedPlayers : Nat
  skippedPlayers : List Int
  /-- Whether the period was closed before. -/
  alreadyClosed : Bool
  deriving DecidableEq

/-- A number in running text, `None` where there is none. -/
def numberInWords : Option Int → String
  | none => "None"
  | some n => toString n

def ClosingSummary.announcement (s : ClosingSummary) : String :=
  s!"closed period_id={s.closed} started_at={s.startedAt.text} ended_at={s.endedAt.text} " ++
    s!"rated_players={s.ratedPlayers} skipped_players={s.skippedPlayers.length} " ++
    s!"new_period_id={numberInWords s.next}"

inductive Assessment (R : Type) where
  /-- The player was never rated and had no matchup. -/
  | absent
  | rated (standing : Standing R) (matchupCount : Nat)
  /-- The volatility equation was not solved. -/
  | diverged
  deriving DecidableEq

variable {R : Type} [Arithmetic R]

namespace Book

/-- A player's standing before a period that ends at the given time; none for a player who was
not rated by then. -/
def prior? (book : Book R) (config : Config R) (player : Int) (time : Moment) :
    Option (Standing R) :=
  (book.latestSnapshot? player (some time)).map fun s =>
    { s.data.standing with deviation := config.glicko.clamp s.data.standing.deviation }

def matchupsBy (book : Book R) (config : Config R) (player : Int) (w : Window) :
    List (Matchup R) :=
  book.matchups player w config.glicko.initial config.minCancelledFinish

def provisional (book : Book R) (config : Config R) (w : Window) (fraction : R) (player : Int) :
    Except (Glicko.RatingFault R) (Standing R) :=
  rate config.glicko (some player) fraction
    ((book.prior? config player w.stop).getD config.glicko.initial)
    (book.matchupsBy config player w)

def assess (book : Book R) (config : Config R) (w : Window) (player : Int) :
    Except (Glicko.RatingFault R) (Assessment R) :=
  let matchups := book.matchupsBy config player w
  if (book.prior? config player w.stop).isNone && matchups.isEmpty then .ok .absent
  else
    match book.provisional config w 1.0 player with
    | .ok standing => .ok (.rated standing matchups.length)
    | .error fault => if fault.isDivergence then .ok .diverged else .error fault

/-- Whom a close looks at: everyone rated before or seen in the period, in ascending order. -/
def candidates (book : Book R) (w : Window) : List Int :=
  ascending (book.ratedPlayers ++ book.participantsIn w)

end Book

namespace Session

def recordedClose (found : Row Period) : Session R ClosingSummary := do
  let book ← get
  let endedAt ← demand found.data.endedAt (.invalid (.closedWithoutEnd found.id))
  return {
    closed := found.id
    next := (book.nextPeriod? found.id).map (·.id)
    startedAt := found.data.startedAt
    endedAt
    ratedPlayers := (book.snapshotsIn found.id).length
    skippedPlayers := []
    alreadyClosed := true }

def markClosing (found : Row Period) : Session R Unit :=
  if found.data.status = .opened then
    modify fun book =>
      { book with periods := book.periods.modify found.id ({ · with status := .closing }) }
  else pure ()

/-- Marks the period to close: the one of the given number, or else the latest, and none when
there is no period or the latest one is closed. -/
def beginClosing (period? : Option Int) : Session R (Option Int) := do
  match period? with
  | some id =>
    let found ← period id
    markClosing found
    return some found.id
  | none =>
    match ← read (·.latestPeriod?) with
    | none => return none
    | some found =>
      if found.data.status = .closed then return none
      markClosing found
      return some found.id

structure Tally where
  rated : Nat
  skipped : List Int
  deriving DecidableEq

def closePlayer (config : Config R) (periodId : Int) (w : Window) (tally : Tally) (player : Int) :
    Session R Tally := do
  let book ← get
  match ← (book.assess config w player : Except _ _) with
  | .absent => return tally
  | .diverged => return { tally with skipped := tally.skipped ++ [player] }
  | .rated standing matchupCount =>
    let _ ← appendSnapshot ⟨periodId, player, standing, matchupCount, w.stop⟩
    return { tally with rated := tally.rated + 1 }

/-- Rates everyone, closes the marked period and opens the next one. -/
def finishClosing (config : Config R) (id : Int) (endedAt : Moment) : Session R ClosingSummary := do
  let found ← period id
  if found.data.status = .closed then return ← recordedClose found
  let startedAt := found.data.startedAt
  check (startedAt ≤ endedAt) (.invalid (.endsBeforeStart endedAt id startedAt))
  let w : Window := ⟨startedAt, endedAt⟩
  let candidates ← read (·.candidates w)
  let tally ← candidates.foldlM (closePlayer config found.id w) ⟨0, []⟩
  let closed : Period → Period := ({ · with status := .closed, endedAt := some endedAt })
  modify fun book => { book with periods := book.periods.modify found.id closed }
  let next ← insertPeriod ⟨.opened, endedAt, none⟩
  return ⟨found.id, some next.id, startedAt, endedAt, tally.rated, tally.skipped, false⟩

/-- Closes the period of the given number, or else the current one, and opens its successor. There
is no summary when there is no period to close. -/
def closePeriod (config : Config R) (period? : Option Int) (endedAt : Moment) :
    Session R (Option ClosingSummary) := do
  match ← atomically (beginClosing period?) with
  | none => return none
  | some id => return some (← atomically (finishClosing config id endedAt))

end Session

end RaceBook
