import RaceBook.Archive.Record
import RaceBook.Toml.Document
import RaceBook.Toml.Render

/-!
# The archive

A book is kept between commands as a document with an array of tables for every kind of record.
A record's number is its place in its array.

* `Book.archived` : the text that a book is kept as;
* `Book.ofArchive?` : the book of such a text.
-/

namespace RaceBook

/-- The table of some records. -/
def Table.ofList {α : Type} (records : List α) : Table α := records.foldl Table.append .empty

namespace Archive

/-- The records of a key; there are none when the key is missing. -/
def records? {α : Type} (t : Toml.Table) (key : String) (read : Toml.Table → Option α) :
    Option (List α) :=
  match t.find? key with
  | none => some []
  | some v => do (← Toml.tablesOf? v).mapM read

/-- Records as the array of a key, which is left out when there are none. -/
def array {α : Type} (key : String) (entries : α → Toml.Table) (records : List α) : Toml.Table :=
  if records.isEmpty then [] else [(key, .array (records.map (.table <| entries ·)))]

def rows {α : Type} (key : String) (entries : α → Toml.Table) (t : Table α) : Toml.Table :=
  array key entries (t.rows.map (·.data))

end Archive

namespace Book

open Archive

def toToml (b : Book Float) : Toml.Table :=
  rows "players" Player.entries b.players ++
    rows "users" User.entries b.users ++
    rows "battles" Battle.entries b.battles ++
    rows "participants" Participant.entries b.participants ++
    rows "rating_periods" Period.entries b.periods ++
    rows "ratings" Snapshot.entries b.snapshots ++
    rows "ledger_transactions" Entry.entries b.ledger ++
    rows "wagers" Wager.entries b.wagers ++
    array "battle_settlements" Settlement.entries b.settlements

def ofToml? (t : Toml.Table) : Option (Book Float) := do
  return {
    players := .ofList (← records? t "players" player?)
    users := .ofList (← records? t "users" user?)
    battles := .ofList (← records? t "battles" Archive.battle?)
    participants := .ofList (← records? t "participants" Archive.participant?)
    periods := .ofList (← records? t "rating_periods" period?)
    snapshots := .ofList (← records? t "ratings" snapshot?)
    ledger := .ofList (← records? t "ledger_transactions" posting?)
    wagers := .ofList (← records? t "wagers" Archive.wager?)
    settlements := ← records? t "battle_settlements" Archive.settlement? }

/-- The text that a book is kept as. -/
def archived (b : Book Float) : String := Toml.renderDocument b.toToml

def ofArchive? (text : String) : Option (Book Float) :=
  match Toml.Document.ofText text with
  | .ok t => ofToml? t
  | .error _ => none

end Book

end RaceBook
