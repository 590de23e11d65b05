import RaceBook.Battle
import RaceBook.Ledger

/-!
# Wagers

A user has at most one wager on a battle. Its stake leaves the balance when it is placed; placing
it again returns the old stake first, so a whole balance can change sides. Wagers are taken while
the battle is ongoing, and a short while after closing time.
-/

namespace RaceBook.Session

variable {R : Type} [Arithmetic R]

/-- Refuses a wager that comes more than the grace after closing time. -/
def checkOpenForWagers (found : Row Battle) (grace : R) (now : Moment) : Session R Unit := do
  let length ← durationOf secondTicks grace
  let last ← demand (found.data.closesAt.add? length) .calendar
  check (now ≤ last) (.violation (.wageringClosed found.id found.data.closesAt))

def placeFirst (userId battleId : Int) (team : Team) (stake : Int) (now : Moment) :
    Session R (Row Wager) := do
  let _ ← debit userId stake .stake (some battleId) now
  let entry : Wager := ⟨userId, battleId, team, stake, now, now, none⟩
  let id := (← get).wagers.nextId
  modify fun book => { book with wagers := book.wagers.append entry }
  return ⟨id, entry⟩

/-- Replaces a wager: the old stake is returned, then the new one is taken. -/
def replaceWager (known : Row Wager) (team : Team) (stake : Int) (now : Moment) :
    Session R (Row Wager) := do
  check known.data.settledBy.isNone (.violation (.wagerSettled known.id))
  let _ ← credit known.data.user known.data.stake .refund (some known.data.battle) now
  let _ ← debit known.data.user stake .stake (some known.data.battle) now
  let replaced : Wager → Wager := ({ · with victor := team, stake, updatedAt := now })
  modify fun book => { book with wagers := book.wagers.modify known.id replaced }
  return ⟨known.id, replaced known.data⟩

def placeWager (userId battleId teamNumber stake : Int) (grace : R) (now : Moment) :
    Session R (Row Wager) := do
  let team ← team teamNumber
  check (0 < stake) (.invalid (.stake stake))
  let found ← battle battleId
  check (found.data.status = .ongoing) (.violation (.wageringOver battleId found.data.status))
  checkOpenForWagers found grace now
  let _ ← user userId
  let backed ← read fun book => (book.participantsOf battleId).any (·.data.team = team)
  check backed (.violation (.emptyTeam team battleId))
  match ← read (·.wager? userId battleId) with
  | none => placeFirst userId battleId team stake now
  | some known => replaceWager known team stake now

end RaceBook.Session
