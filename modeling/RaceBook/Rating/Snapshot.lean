import RaceBook.Player
import RaceBook.Rating.Period
import RaceBook.Sorting

/-!
# Rating snapshots

A snapshot is a player's standing at the close of a period. Snapshots are only added, and each
player's cached standing is the one of their latest snapshot.

* `Book.latestSnapshot?` : a player's latest snapshot, also as of an earlier time;
* `Book.ratedPlayers` : who has a snapshot;
* `Session.appendSnapshot`, `Session.refreshCache`, `Session.currentStanding`.
-/

namespace RaceBook

/-- A number put into an ascending list, once. -/
def insertAscending (n : Int) : List Int → List Int
  | [] => [n]
  | m :: rest =>
    if n < m then n :: m :: rest
    else if n = m then m :: rest
    else m :: insertAscending n rest

def ascending (ns : List Int) : List Int := ns.foldr insertAscending []

namespace Book

variable {R : Type}

def snapshotsOf (book : Book R) (player : Int) : List (Row (Snapshot R)) :=
  book.snapshots.rows.filter (·.data.player = player)

/-- A player's latest snapshot, or the latest that was made no later than `at?`. -/
def latestSnapshot? (book : Book R) (player : Int) (at? : Option Moment) :
    Option (Row (Snapshot R)) :=
  let counted := match at? with
    | none => book.snapshotsOf player
    | some time => (book.snapshotsOf player).filter (·.data.createdAt ≤ time)
  latest? (·.data.createdAt) counted

/-- A player's standing as of a time; `initial` before their first snapshot. -/
def standingAt (book : Book R) (player : Int) (time : Moment) (initial : Standing R) :
    Standing R :=
  ((book.latestSnapshot? player (some time)).map (·.data.standing)).getD initial

def ratedPlayers (book : Book R) : List Int := ascending (book.snapshots.rows.map (·.data.player))

/-- The snapshots of a period, in the order of the players. -/
def snapshotsIn (book : Book R) (period : Int) : List (Row (Snapshot R)) :=
  sortedBy (·.data.player ≤ ·.data.player)
    (book.snapshots.rows.filter (·.data.period = period))

end Book

namespace Session

variable {R : Type}

/-- The player of a number, whose cache is brought to their latest snapshot. -/
def refreshCache (playerId : Int) : Session R (Row (Player R)) := do
  let known ← player playerId
  match ← read (·.latestSnapshot? playerId none) with
  | none => return known
  | some last =>
    let cached : Player R → Player R :=
      ({ · with standing := last.data.standing, period := some last.data.period })
    modify fun book => { book with players := book.players.modify playerId cached }
    return ⟨known.id, cached known.data⟩

def appendSnapshot [Arithmetic R] (entry : Snapshot R) : Session R (Row (Snapshot R)) := do
  checkSnapshot entry.standing
  check (0 ≤ entry.matchupCount) (.constraint .matchupCountNotNegative)
  let book ← get
  let taken := book.snapshots.rows.any fun s =>
    s.data.period = entry.period && s.data.player = entry.player
  check (!taken) (.constraint .uniqueSnapshot)
  check ((book.periods.find? entry.period).isSome && (book.players.find? entry.player).isSome)
    (.constraint .reference)
  let id := book.snapshots.nextId
  set { book with
    snapshots := book.snapshots.append { entry with standing := entry.standing.stored } }
  let _ ← refreshCache entry.player
  return ⟨id, entry⟩

def currentStanding (playerId : Int) : Session R (Standing R) := do
  return (← player playerId).data.standing

end Session

end RaceBook
