import RaceBook.Rating.Snapshot

/-!
# The leaderboard

The players whose cached deviation is below a limit, the highest rating first and, among equal
ratings, the lowest number first. Each is joined with the snapshots that have the player and the
period of the cache.

* `Book.leadersOf` : a player with each of these snapshots, or with none;
* `Book.leaderboard` : the first places.
-/

namespace RaceBook

/-- A place on the leaderboard: a player, and the snapshot that the cache was taken from. -/
structure Leader (R : Type) where
  player : Row (Player R)
  snapshot? : Option (Row (Snapshot R))

def Leader.matchupCount {R : Type} (l : Leader R) : Int :=
  (l.snapshot?.map (·.data.matchupCount)).getD 0

namespace Book

variable {R : Type}

/-- The snapshots of a player in the period that their cache was taken from. -/
def cachedSnapshots (book : Book R) (p : Row (Player R)) : List (Row (Snapshot R)) :=
  book.snapshots.rows.filter fun s =>
    s.data.player = p.id && some s.data.period = p.data.period

/-- A player with each of those snapshots; with none if there are none. -/
def leadersOf (book : Book R) (p : Row (Player R)) : List (Leader R) :=
  match book.cachedSnapshots p with
  | [] => [⟨p, none⟩]
  | found => found.map fun s => ⟨p, some s⟩

variable [Arithmetic R]

/-- Whether a player stands before another: higher rated, or not lower and of smaller number. -/
def ranksBefore (p q : Row (Player R)) : Bool :=
  let a := p.data.standing.rating
  let b := q.data.standing.rating
  b < a || (!(decide (a < b)) && p.id ≤ q.id)

/-- The first `count` places, of the players with a deviation below the limit. -/
def leaderboard (book : Book R) (count : Nat) (limit : R) : List (Leader R) :=
  let shown := book.players.rows.filter (·.data.standing.deviation < limit)
  (sortedBy (fun l m => ranksBefore l.player m.player) (shown.flatMap book.leadersOf)).take count

end Book

end RaceBook
