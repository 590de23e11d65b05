import RaceBook.Rating.Latest
import RaceBook.Store.Session

/-!
# Rating periods

Periods follow one another; at most one is open.

* `Book.latestPeriod?` : the period that started last;
* `Book.nextPeriod?` : the period that was opened when another closed;
* `Session.openPeriod?`, `Session.ensureOpenPeriod`;
* `Session.insertPeriod` : a period written by hand.
-/

namespace RaceBook

namespace Book

variable {R : Type}

/-- The period that started last, whatever its status. -/
def latestPeriod? (book : Book R) : Option (Row Period) :=
  latest? (·.data.startedAt) book.periods.rows

/-- All open periods; there is never more than one. -/
def openPeriods (book : Book R) : List (Row Period) :=
  book.periods.rows.filter (·.data.status = .opened)

/-- The period opened when the one of the given number closed. -/
def nextPeriod? (book : Book R) (id : Int) : Option (Row Period) :=
  book.periods.rows.find? (id < ·.id)

end Book

namespace Session

variable {R : Type}

def period (id : Int) : Session R (Row Period) := do
  demand ((← get).periods.find? id) (.notFound (.period id))

def openPeriod? : Session R (Option (Row Period)) := do
  match ← read (·.openPeriods) with
  | [] => return none
  | [found] => return some found
  | several => throw (.violation (.severalOpenPeriods (several.map (·.id))))

/-- The period opened when the one of the given number closed; that one must exist. -/
def nextPeriod? (id : Int) : Session R (Option (Row Period)) := do
  let found ← period id
  read (·.nextPeriod? found.id)

/-- Adds a period; a second open one is refused. -/
def insertPeriod (entry : Period) : Session R (Row Period) := do
  let book ← get
  check (entry.status ≠ .opened || book.openPeriods.isEmpty) (.constraint .uniqueOpenPeriod)
  let id := book.periods.nextId
  set { book with periods := book.periods.append entry }
  return ⟨id, entry⟩

/-- The open period; the first one of all is opened now. -/
def ensureOpenPeriod (now : Moment) : Session R (Row Period) := do
  match ← openPeriod? with
  | some found => return found
  | none =>
    match ← read (·.latestPeriod?) with
    | some last => throw (.violation (.noOpenPeriod last.id last.data.status))
    | none => insertPeriod ⟨.opened, now, none⟩

end Session

end RaceBook
