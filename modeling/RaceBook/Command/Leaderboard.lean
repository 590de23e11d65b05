import RaceBook.Command.Report
import RaceBook.Rating.Close
import RaceBook.Rating.Leaderboard

/-!
# Showing the leaderboard

`showLeaderboard` lists the best players. `--top-n` is how many, twenty if it is not given;
`--max-rd` is the deviation below which a player is shown, the initial one if it is not given,
which hides everyone who was never rated.

* `leadersAsked` : what the words ask for, within the bounds of the options;
* `Session.listLeaders` : the places of the leaderboard, in lines.
-/

namespace RaceBook

def Leader.line (index : Nat) (l : Leader Float) : String :=
  let s := l.player.data.standing
  Number.padLeft 2 (toString index) ++ ". " ++ Number.padRight 20 l.player.data.displayName ++
    " rating=" ++ Number.padLeft 8 (Number.fixed 2 s.rating) ++
    " rd=" ++ Number.padLeft 7 (Number.fixed 2 s.deviation) ++
    " vol=" ++ Number.padLeft 7 (Number.fixed 5 s.volatility) ++
    " period_id=" ++ numberInWords l.player.data.period ++
    " matchups=" ++ Number.padLeft 3 (toString l.matchupCount)

def leaderboardLines (name : String) (count : Int) (limit : Float)
    (leaders : List (Leader Float)) : List String :=
  if leaders.isEmpty then [s!"No players with deviation below {Number.fixed 2 limit}."]
  else
    s!"config={name} top_n={count} max_rd={Number.fixed 2 limit}" ::
      leaders.mapIdx fun i l => l.line (i + 1)

def leaderboardForms : List OptionForm :=
  [⟨"--top-n", true⟩, ⟨"--max-rd", true⟩, ⟨"--db-url", true⟩, ⟨"--config-path", true⟩]

/-- The configuration, the number of places and the deviation limit that are asked for. -/
def leadersAsked (setting : Setting) (words : List String) :
    Except Failure (Config Float × Int × Float) := do
  let some line := CommandLine.read? leaderboardForms words | throw .usage
  let some count? := line.integer? "--top-n" | throw .usage
  let some limit? := line.decimal? "--max-rd" | throw .usage
  unless line.operands.isEmpty do throw .usage
  let count := count?.getD 20
  if count ≤ 0 then throw .usage
  let config ← setting.configuration
  let limit := limit?.getD config.glicko.initial.deviation
  if limit ≤ 0.0 then throw .usage
  return (config, count, limit)

def Session.listLeaders (name : String) (count : Int) (limit : Float) : Session Float Report := do
  checkRange count
  let leaders ← read (·.leaderboard count.toNat limit)
  return .saying (leaderboardLines name count limit leaders)

def showLeaderboard (setting : Setting) (words : List String) (book : Book Float) : Outcomes :=
  match leadersAsked setting words with
  | .error failure => (.error failure, book)
  | .ok (config, count, limit) => (Session.listLeaders config.name count limit).report book

end RaceBook
