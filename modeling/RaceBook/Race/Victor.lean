import RaceBook.Race.Team

/-!
# The victor of a battle

`victor` is the team of the fastest racer with a counted time; there is none when nobody has such
a time or when racers of both teams share the best one. Wagers are paid by it. It is stricter than
the outcome that ratings see: a racer without a time wins against a no-contest run, but nobody is
paid for that.
-/

namespace RaceBook

structure Entrant where
  team : Team
  finish : Finish
  deriving DecidableEq, Repr

/-- Whether some racer of the team has this counted time. -/
def hasTime (entrants : List Entrant) (team : Team) (time : Int) : Bool :=
  entrants.any fun e => e.team = team && e.finish.countedTime? = some time

def bestTime? (entrants : List Entrant) : Option Int :=
  (entrants.filterMap fun e => e.finish.countedTime?).min?

/-- The team of the fastest racer with a counted time, unless both teams share that time. -/
def victor (entrants : List Entrant) : Option Team := do
  let best ← bestTime? entrants
  match hasTime entrants .red best, hasTime entrants .blue best with
  | true, false => some .red
  | false, true => some .blue
  | _, _ => none

end RaceBook
