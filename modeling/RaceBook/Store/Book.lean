import RaceBook.Calendar.Moment
import RaceBook.Glicko.Parameters
import RaceBook.Race.Victor
import RaceBook.Store.Table

/-!
# The race book

All that is kept: players and their rating snapshots, rating periods, battles with their
participants, users with their ledger, wagers, and one mark for every settled battle.

* `Player`, `Battle`, `Participant`, `Period`, `Snapshot`, `User`, `Entry`, `Wager`,
  `Settlement` : the records;
* `Book` : their tables.
-/

namespace RaceBook

/-- A rated racer, known by the public key of their game client. -/
structure Player (R : Type) where
  publicKey : String
  displayName : String
  /-- The standing of the latest snapshot; before the first one, the standing given at the
  start. -/
  standing : Standing R
  /-- The period of the latest snapshot. -/
  period : Option Int
  deriving DecidableEq

/-- A spectator with a balance to wager. -/
structure User where
  username : String
  balance : Int
  createdAt : Moment
  updatedAt : Moment
  deriving DecidableEq

structure Battle where
  levelName : String
  status : BattleStatus
  createdAt : Moment
  /-- When wagers close. -/
  closesAt : Moment
  concludedAt : Option Moment
  deriving DecidableEq

structure Participant where
  battle : Int
  player : Int
  team : Team
  finish : Finish
  deriving DecidableEq

namespace Participant

def entrant (p : Participant) : Entrant := ⟨p.team, p.finish⟩

end Participant

inductive PeriodStatus where
  | opened
  | closing
  | closed
  deriving DecidableEq, Repr

def PeriodStatus.name : PeriodStatus → String
  | opened => "open"
  | closing => "closing"
  | closed => "closed"

/-- A span of time whose battles are rated together. -/
structure Period where
  status : PeriodStatus
  startedAt : Moment
  endedAt : Option Moment
  deriving DecidableEq

/-- A player's standing at the close of a period. -/
structure Snapshot (R : Type) where
  period : Int
  player : Int
  standing : Standing R
  matchupCount : Int
  createdAt : Moment
  deriving DecidableEq

inductive EntryKind where
  | stake
  | payout
  | refund
  | grant
  deriving DecidableEq, Repr

def EntryKind.name : EntryKind → String
  | stake => "stake"
  | payout => "payout"
  | refund => "refund"
  | grant => "grant"

structure Entry where
  user : Int
  battle : Option Int
  kind : EntryKind
  amount : Int
  balanceAfter : Int
  createdAt : Moment
  deriving DecidableEq

/-- A user's stake on one team of a battle. -/
structure Wager where
  user : Int
  battle : Int
  victor : Team
  stake : Int
  createdAt : Moment
  updatedAt : Moment
  /-- The ledger entry that paid the wager out, once it is settled. -/
  settledBy : Option Int
  deriving DecidableEq

/-- The mark of a settled battle; without a victor all stakes were returned. -/
structure Settlement where
  battle : Int
  victor : Option Team
  settledAt : Moment
  deriving DecidableEq

structure Book (R : Type) where
  players : Table (Player R)
  users : Table User
  battles : Table Battle
  participants : Table Participant
  periods : Table Period
  snapshots : Table (Snapshot R)
  ledger : Table Entry
  wagers : Table Wager
  /-- In the order of the battles. -/
  settlements : List Settlement
  deriving DecidableEq

namespace Book

variable {R : Type}

def empty : Book R := ⟨.empty, .empty, .empty, .empty, .empty, .empty, .empty, .empty, []⟩

instance : Inhabited (Book R) := ⟨empty⟩

def settlement? (b : Book R) (battle : Int) : Option Settlement :=
  b.settlements.find? (·.battle = battle)

/-- The participants of a battle, in the order in which they joined. -/
def participantsOf (b : Book R) (battle : Int) : List (Row Participant) :=
  b.participants.rows.filter (·.data.battle = battle)

def participant? (b : Book R) (battle player : Int) : Option (Row Participant) :=
  (b.participantsOf battle).find? (·.data.player = player)

/-- The wagers on a battle, in the order in which they were first placed. -/
def wagersOn (b : Book R) (battle : Int) : List (Row Wager) :=
  b.wagers.rows.filter (·.data.battle = battle)

def unsettledOn (b : Book R) (battle : Int) : List (Row Wager) :=
  (b.wagersOn battle).filter (·.data.settledBy.isNone)

def wager? (b : Book R) (user battle : Int) : Option (Row Wager) :=
  (b.wagersOn battle).find? (·.data.user = user)

end Book

end RaceBook
