import RaceBook.Arithmetic
import RaceBook.Race.Team

/-!
# Outcomes of a race between two

`Outcome.of mine theirs` is the result of one racer against one opponent, as ratings see it: a
no-contest run loses to any other run, a finisher beats a racer without a time, and of two
finishers the faster one wins. All else is a draw.
-/

namespace RaceBook

inductive Outcome where
  | win
  | loss
  | draw
  deriving DecidableEq, Repr

namespace Outcome

def name : Outcome → String
  | win => "win"
  | loss => "loss"
  | draw => "draw"

/-- The score of an outcome: half a point for a draw. -/
def score {R : Type} [Arithmetic R] : Outcome → R
  | win => 1.0
  | loss => 0.0
  | draw => 0.5

/-- The place of an outcome; both sides of a draw come first. -/
def position : Outcome → Int
  | loss => 2
  | win | draw => 1

/-- The outcome of two times: the smaller one wins, and any time beats none. -/
def ofTimes : (mine theirs : Option Int) → Outcome
  | none, none => draw
  | none, some _ => loss
  | some _, none => win
  | some mine, some theirs =>
    if mine < theirs then win else if theirs < mine then loss else draw

/-- The outcome of a race for the racer who brought home `mine`. -/
def of (mine theirs : Finish) : Outcome :=
  match mine.noContest, theirs.noContest with
  | true, true => draw
  | true, false => loss
  | false, true => win
  | false, false => ofTimes mine.time theirs.time

end Outcome

end RaceBook
