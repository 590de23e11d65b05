import RaceBook.Rating.CatchUp
import RaceBook.Rating.Preview
import RaceBook.Settlement

/-!
# Operations on the book

* `Query`, `Command` : what reads the book and what writes to it in one session;
* `Operation` : all of them with the jobs that settle battles and close periods;
* `Operation.perform` : the reply, or a refusal that leaves no trace but a period marked as
  closing; `Operation.after` : the book after it, refused or not;
* `Reachable` : the books that operations lead to from the empty one;
* `Correction` : rows written by hand, which no operation does;
* `Batch.run` : several requests in one session.
-/

namespace RaceBook

inductive Query (R : Type) where
  | player (id : Int)
  | balance (user : Int)
  | battleDelta (user battle : Int)
  | battle (id : Int)
  | participants (battle : Int)
  | wagers (battle : Int)
  | unsettledWagers (battle : Int)
  | matchups (player : Int) (window : Window) (initial : Standing R) (minCancelledFinish : Int)
  | participantsIn (window : Window)
  | period (id : Int)
  | latestPeriod
  | openPeriod
  | nextPeriod (id : Int)
  | latestSnapshot (player : Int) (at? : Option Moment)
  | ratedPlayers
  | snapshotsIn (period : Int)
  | currentStanding (player : Int)
  | preview (config : Config R) (player : Int) (now : Moment)

inductive Command (R : Type) where
  | register (publicKey displayName : String) (initial : Standing R)
  | createUser (username : String) (startingBalance : Int) (now : Moment)
  | credit (user amount : Int) (kind : EntryKind) (battle? : Option Int) (now : Moment)
  | debit (user amount : Int) (kind : EntryKind) (battle? : Option Int) (now : Moment)
  | grant (user amount : Int) (now : Moment)
  | createBattle (levelName : String) (closesAt now : Moment)
  | addParticipant (battle player team : Int)
  | reportResult (battle player : Int) (finish : Finish)
  | concludeBattle (battle : Int) (now : Moment) (cancelled : Bool)
  | placeWager (user battle team stake : Int) (grace : R) (now : Moment)
  | ensureOpenPeriod (now : Moment)
  | appendSnapshot (snapshot : Snapshot R)
  | refreshCache (player : Int)

/-- A row written by hand. -/
inductive Correction where
  | insertPeriod (period : Period)
  | stampWager (wager entry : Int)

inductive Reply (R : Type) where
  | number (n : Int)
  | numbers (ns : List Int)
  | player (row : Row (Player R))
  | user (row : Row User)
  | battle (row : Row Battle)
  | participant (row : Row Participant)
  | participants (rows : List (Row Participant))
  | entry (row : Row Entry)
  | wager (row : Row Wager)
  | wagers (rows : List (Row Wager))
  | matchups (ms : List (Matchup R))
  | period (row : Row Period)
  | period? (row? : Option (Row Period))
  | snapshot (row : Row (Snapshot R))
  | snapshot? (row? : Option (Row (Snapshot R)))
  | snapshots (rows : List (Row (Snapshot R)))
  | standing (s : Standing R)
  | resolution (r : Resolution)
  | summary? (s? : Option ClosingSummary)
  | summaries (ss : List ClosingSummary)

variable {R : Type} [Arithmetic R]

def Query.run : Query R → Session R (Reply R)
  | .player id => .player <$> Session.player id
  | .balance userId => .number <$> Session.balance userId
  | .battleDelta userId battleId => .number <$> Session.battleDelta userId battleId
  | .battle id => .battle <$> Session.battle id
  | .participants battleId => .participants <$> Session.participants battleId
  | .wagers battleId => Session.read fun book => .wagers (book.wagersOn battleId)
  | .unsettledWagers battleId => Session.read fun book => .wagers (book.unsettledOn battleId)
  | .matchups playerId w initial minCancelledFinish =>
    Session.read fun book => .matchups (book.matchups playerId w initial minCancelledFinish)
  | .participantsIn w => Session.read fun book => .numbers (book.participantsIn w)
  | .period id => .period <$> Session.period id
  | .latestPeriod => Session.read fun book => .period? book.latestPeriod?
  | .openPeriod => .period? <$> Session.openPeriod?
  | .nextPeriod id => .period? <$> Session.nextPeriod? id
  | .latestSnapshot playerId at? =>
    Session.read fun book => .snapshot? (book.latestSnapshot? playerId at?)
  | .ratedPlayers => Session.read fun book => .numbers book.ratedPlayers
  | .snapshotsIn periodId => Session.read fun book => .snapshots (book.snapshotsIn periodId)
  | .currentStanding playerId => .standing <$> Session.currentStanding playerId
  | .preview config playerId now => .standing <$> Session.preview config playerId now

def Command.run : Command R → Session R (Reply R)
  | .register key name initial => .player <$> Session.register key name initial
  | .createUser name startingBalance now =>
    .user <$> Session.createUser name startingBalance now
  | .credit user amount kind battle? now =>
    .entry <$> Session.credit user amount kind battle? now
  | .debit user amount kind battle? now => .entry <$> Session.debit user amount kind battle? now
  | .grant user amount now => .entry <$> Session.grant user amount now
  | .createBattle name closesAt now => .battle <$> Session.createBattle name closesAt now
  | .addParticipant battle player team =>
    .participant <$> Session.addParticipant battle player team
  | .reportResult battle player finish =>
    .participant <$> Session.reportResult battle player finish
  | .concludeBattle battle now cancelled => .battle <$> Session.concludeBattle battle now cancelled
  | .placeWager user battle team stake grace now =>
    .wager <$> Session.placeWager user battle team stake grace now
  | .ensureOpenPeriod now => .period <$> Session.ensureOpenPeriod now
  | .appendSnapshot snapshot => .snapshot <$> Session.appendSnapshot snapshot
  | .refreshCache player => .player <$> Session.refreshCache player

/-! ## Corrections -/

namespace Session

/-- Notes a ledger entry as the one that settled a wager. -/
def stampWager (wagerId entryId : Int) : Session R (Row Wager) := do
  let book ← get
  let known ← demand (book.wagers.find? wagerId) (.unknownWager wagerId)
  let taken := book.wagers.rows.any fun w =>
    w.id ≠ wagerId && w.data.settledBy = some entryId
  check (!taken) (.constraint .uniqueSettlingEntry)
  check (book.ledger.find? entryId).isSome (.constraint .reference)
  set { book with
    wagers := book.wagers.modify wagerId ({ · with settledBy := some entryId }) }
  return ⟨known.id, { known.data with settledBy := some entryId }⟩

end Session

def Correction.run : Correction → Session R (Reply R)
  | .insertPeriod entry => .period <$> Session.insertPeriod entry
  | .stampWager wager entry => .wager <$> Session.stampWager wager entry

/-! ## Operations and the books they lead to -/

/-- What the book is used for. -/
inductive Operation (R : Type) where
  | query (q : Query R)
  | command (c : Command R)
  | openFirstPeriod (now : Moment)
  | settle (battle : Int) (now : Moment)
  | closePeriod (config : Config R) (period? : Option Int) (endedAt : Moment)
  | closeElapsed (config : Config R) (now : Moment)

def Operation.perform : Operation R → Session R (Reply R)
  | .query q => Session.atomically q.run
  | .command c => Session.atomically c.run
  | .openFirstPeriod now => .period <$> Session.openFirstPeriod now
  | .settle battle now => .resolution <$> Session.atomically (Session.settle battle now)
  | .closePeriod config period? endedAt =>
    .summary? <$> Session.closePeriod config period? endedAt
  | .closeElapsed config now => .summaries <$> Session.closeElapsed config now

/-- The book after a session, refused or not. -/
def Session.after {α : Type} (s : Session R α) (book : Book R) : Book R :=
  match s book with
  | .ok _ later => later
  | .error _ later => later

def Operation.after (op : Operation R) (book : Book R) : Book R := op.perform.after book

/-- The books that operations lead to. -/
inductive Reachable : Book R → Prop where
  | empty : Reachable .empty
  | step {book : Book R} (op : Operation R) : Reachable book → Reachable (op.after book)

/-! ## Several requests in one session -/

/-- The replies up to the first refusal, and whether what was written is kept. -/
structure Batch (R : Type) where
  replies : List (Except (Fault R) (Reply R))
  kept : Bool
  book : Book R

namespace Batch

/-- The replies of the requests up to the first refusal, with the book as it then is. -/
def collect : List (Session R (Reply R)) → Book R → Batch R
  | [], book => ⟨[], true, book⟩
  | s :: rest, book =>
    match s book with
    | .ok reply later =>
      let batch := collect rest later
      { batch with replies := .ok reply :: batch.replies }
    | .error fault later => ⟨[.error fault], false, later⟩

/-- Runs requests in one session. After a refusal what was written is kept or undone as asked. -/
def run (keepPartial : Bool) (requests : List (Session R (Reply R))) (book : Book R) : Batch R :=
  let batch := collect requests book
  if batch.kept then batch
  else if keepPartial then { batch with kept := true }
  else { batch with book }

end Batch

end RaceBook
