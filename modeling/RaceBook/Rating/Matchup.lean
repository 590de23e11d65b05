import RaceBook.Glicko.Update
import RaceBook.Race.Outcome
import RaceBook.Rating.Snapshot

/-!
# Matchups

A matchup is a battle that ended, seen by a player who had exactly one opponent in it. A
concluded battle always counts; a cancelled one counts when it ran long enough.

* `Window` : the time from a start, included, to an end, excluded;
* `Book.matchups` : a player's matchups in a window, by the time at which the battles were made;
* `Book.participantsIn` : who took part in a battle that ended in a window;
* `rate` : a standing after the matchups of a period.
-/

namespace RaceBook

structure Matchup (R : Type) where
  battle : Int
  opponent : Int
  /-- The opponent's standing when the battle ended. -/
  opponentStanding : Standing R
  outcome : Outcome
  noContest : Bool
  opponentNoContest : Bool
  /-- The opponent's time, or the player's own when the opponent has none. -/
  finishTime : Option Int
  deriving DecidableEq

/-- A span of time with its start and without its end. -/
structure Window where
  start : Moment
  stop : Moment
  deriving DecidableEq

def Window.covers (w : Window) (b : Battle) : Bool :=
  b.status.isTerminal && b.concludedAt.any fun time => w.start ≤ time && time < w.stop

/-- Whether a battle that ended counts toward ratings, with the time by which that is decided. -/
def Battle.counts (b : Battle) (finishTime : Option Int) (minCancelledFinish : Int) : Bool :=
  b.status = .concluded || finishTime.any (minCancelledFinish < ·)

namespace Book

variable {R : Type}

/-- The matchup that a battle was for a player, if it was one and counts. -/
def matchup? (book : Book R) (player : Int) (initial : Standing R) (minCancelledFinish : Int)
    (b : Row Battle) : Option (Matchup R) := do
  let me ← book.participant? b.id player
  match (book.participantsOf b.id).filter (·.data.player ≠ player) with
  | [opponent] =>
    let finishTime := opponent.data.finish.time <|> me.data.finish.time
    if b.data.counts finishTime minCancelledFinish then
      let ended ← b.data.concludedAt
      return {
        battle := b.id
        opponent := opponent.data.player
        opponentStanding := book.standingAt opponent.data.player ended initial
        outcome := .of me.data.finish opponent.data.finish
        noContest := me.data.finish.noContest
        opponentNoContest := opponent.data.finish.noContest
        finishTime }
    else none
  | _ => none

/-- Whether a battle comes before another by the time at which it was made, then by number. -/
def createdBefore (b c : Row Battle) : Bool :=
  b.data.createdAt < c.data.createdAt ||
    (b.data.createdAt = c.data.createdAt && b.id ≤ c.id)

/-- The battles that ended in a window, by the time at which they were made. -/
def battlesIn (book : Book R) (w : Window) : List (Row Battle) :=
  sortedBy createdBefore (book.battles.rows.filter (w.covers ·.data))

def matchups (book : Book R) (player : Int) (w : Window) (initial : Standing R)
    (minCancelledFinish : Int) : List (Matchup R) :=
  (book.battlesIn w).filterMap (book.matchup? player initial minCancelledFinish)

def participantsIn (book : Book R) (w : Window) : List Int :=
  ascending ((book.participants.rows.filter fun p =>
    (book.battles.find? p.data.battle).any (w.covers ·.data)).map (·.data.player))

end Book

def Matchup.result {R : Type} [Arithmetic R] (m : Matchup R) : Glicko.Result R :=
  ⟨m.opponentStanding.rating, m.opponentStanding.deviation, m.outcome.score⟩

/-- A standing after the elapsed fraction of a period with the given matchups; the new deviation
is clamped. No player meets themself. -/
def rate {R : Type} [Arithmetic R] (p : Glicko.Parameters R) (player? : Option Int)
    (fraction : R) (current : Standing R) (matchups : List (Matchup R)) :
    Except (Glicko.RatingFault R) (Standing R) := do
  if let some m := matchups.find? fun m => player? = some m.opponent then
    throw (.selfPairing m.battle m.opponent)
  let new ← Glicko.update p.solver fraction (some p.maxDeviation) current (matchups.map (·.result))
  return { new with deviation := p.clamp new.deviation }

end RaceBook
