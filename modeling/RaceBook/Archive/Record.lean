import RaceBook.Store.Book
import RaceBook.Toml.Value

/-!
# Records in the archive

Every kind of record is kept as a table of named values; what a record does not have is left out.

* `integer?`, `decimal?`, `text?`, `moment?`, `optional?` : the value of a key;
* `Player.entries` and `Archive.player?`, and so on for every kind of record.
-/

namespace RaceBook

namespace Archive

/-! ## Values by key -/

def integer? (t : Toml.Table) (key : String) : Option Int :=
  match t.find? key with
  | some (.integer n) => some n
  | _ => none

def decimal? (t : Toml.Table) (key : String) : Option Float :=
  match t.find? key with
  | some (.decimal x) => some x
  | _ => none

def boolean? (t : Toml.Table) (key : String) : Option Bool :=
  match t.find? key with
  | some (.boolean b) => some b
  | _ => none

def text? (t : Toml.Table) (key : String) : Option String :=
  match t.find? key with
  | some (.text s) => some s
  | _ => none

def moment? (t : Toml.Table) (key : String) : Option Moment :=
  match t.find? key with
  | some (.dateTime d clock none) => Moment.ofDate? d clock.ticks
  | _ => none

/-- What is read of a key, if the table has it. -/
def optional? {α : Type} (read : Toml.Table → String → Option α) (t : Toml.Table) (key : String) :
    Option (Option α) :=
  if (t.find? key).isSome then some <$> read t key else some none

def ofMoment (m : Moment) : Toml.Value :=
  let inDay := m.ticks % dayTicks
  let seconds := inDay / secondTicks
  .dateTime (Date.ofDayNumber (m.ticks / dayTicks))
    ⟨seconds / 3600, seconds / 60 % 60, seconds % 60, inDay % secondTicks⟩ none

/-- An entry that is left out when there is no value. -/
def given {α : Type} (key : String) (write : α → Toml.Value) (value? : Option α) : Toml.Table :=
  (value?.map fun a => (key, write a)).toList

/-- One of some values by its name. -/
def named? {α : Type} (all : List α) (name : α → String) (t : Toml.Table) (key : String) :
    Option α := do
  let s ← text? t key
  all.find? (name · = s)

def team? (t : Toml.Table) (key : String) : Option Team := do Team.ofNumber? (← integer? t key)

def standing? (t : Toml.Table) : Option (Standing Float) := do
  return ⟨← decimal? t "rating", ← decimal? t "deviation", ← decimal? t "volatility"⟩

/-! ## Reading records -/

def player? (t : Toml.Table) : Option (Player Float) := do
  return ⟨← text? t "public_key", ← text? t "display_name", ← standing? t,
    ← optional? integer? t "rating_period_id"⟩

def user? (t : Toml.Table) : Option User := do
  return ⟨← text? t "username", ← integer? t "balance", ← moment? t "created_at",
    ← moment? t "updated_at"⟩

def battle? (t : Toml.Table) : Option Battle := do
  return ⟨← text? t "level_name",
    ← named? [.ongoing, .concluded, .cancelled] BattleStatus.name t "status",
    ← moment? t "created_at", ← moment? t "closes_at", ← optional? moment? t "concluded_at"⟩

def participant? (t : Toml.Table) : Option Participant := do
  return ⟨← integer? t "battle_id", ← integer? t "player_id", ← team? t "team",
    ⟨← optional? integer? t "finish_time", ← boolean? t "no_contest"⟩⟩

def period? (t : Toml.Table) : Option Period := do
  return ⟨← named? [.opened, .closing, .closed] PeriodStatus.name t "status",
    ← moment? t "started_at", ← optional? moment? t "ended_at"⟩

def snapshot? (t : Toml.Table) : Option (Snapshot Float) := do
  return ⟨← integer? t "period_id", ← integer? t "player_id", ← standing? t,
    ← integer? t "matchup_count", ← moment? t "created_at"⟩

def posting? (t : Toml.Table) : Option Entry := do
  return ⟨← integer? t "user_id", ← optional? integer? t "battle_id",
    ← named? [.stake, .payout, .refund, .grant] EntryKind.name t "kind",
    ← integer? t "amount", ← integer? t "balance_after", ← moment? t "created_at"⟩

def wager? (t : Toml.Table) : Option Wager := do
  return ⟨← integer? t "user_id", ← integer? t "battle_id", ← team? t "victor",
    ← integer? t "stake", ← moment? t "created_at", ← moment? t "updated_at",
    ← optional? integer? t "settlement_transaction_id"⟩

def settlement? (t : Toml.Table) : Option Settlement := do
  return ⟨← integer? t "battle_id", ← optional? team? t "victor", ← moment? t "settled_at"⟩

end Archive

/-! ## Writing records -/

open Archive (given ofMoment)

def Standing.entries (s : Standing Float) : Toml.Table :=
  [("rating", .decimal s.rating), ("deviation", .decimal s.deviation),
    ("volatility", .decimal s.volatility)]

def Player.entries (p : Player Float) : Toml.Table :=
  [("public_key", .text p.publicKey), ("display_name", .text p.displayName)] ++
    p.standing.entries ++ given "rating_period_id" .integer p.period

def User.entries (u : User) : Toml.Table :=
  [("username", .text u.username), ("balance", .integer u.balance),
    ("created_at", ofMoment u.createdAt), ("updated_at", ofMoment u.updatedAt)]

def Battle.entries (b : Battle) : Toml.Table :=
  [("level_name", .text b.levelName), ("status", .text b.status.name),
    ("created_at", ofMoment b.createdAt), ("closes_at", ofMoment b.closesAt)] ++
    given "concluded_at" ofMoment b.concludedAt

def Participant.entries (p : Participant) : Toml.Table :=
  [("battle_id", .integer p.battle), ("player_id", .integer p.player),
    ("team", .integer p.team.number), ("no_contest", .boolean p.finish.noContest)] ++
    given "finish_time" .integer p.finish.time

def Period.entries (p : Period) : Toml.Table :=
  [("status", .text p.status.name), ("started_at", ofMoment p.startedAt)] ++
    given "ended_at" ofMoment p.endedAt

def Snapshot.entries (s : Snapshot Float) : Toml.Table :=
  [("period_id", .integer s.period), ("player_id", .integer s.player)] ++ s.standing.entries ++
    [("matchup_count", .integer s.matchupCount), ("created_at", ofMoment s.createdAt)]

def Entry.entries (e : Entry) : Toml.Table :=
  [("user_id", .integer e.user)] ++ given "battle_id" .integer e.battle ++
    [("kind", .text e.kind.name), ("amount", .integer e.amount),
      ("balance_after", .integer e.balanceAfter), ("created_at", ofMoment e.createdAt)]

def Wager.entries (w : Wager) : Toml.Table :=
  [("user_id", .integer w.user), ("battle_id", .integer w.battle),
    ("victor", .integer w.victor.number), ("stake", .integer w.stake),
    ("created_at", ofMoment w.createdAt), ("updated_at", ofMoment w.updatedAt)] ++
    given "settlement_transaction_id" .integer w.settledBy

def Settlement.entries (s : Settlement) : Toml.Table :=
  [("battle_id", .integer s.battle)] ++ given "victor" (.integer ·.number) s.victor ++
    [("settled_at", ofMoment s.settledAt)]

end RaceBook
