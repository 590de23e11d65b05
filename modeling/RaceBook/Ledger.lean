import RaceBook.Store.Session
import RaceBook.Text.Blank

/-!
# The ledger

Every change of a balance is one ledger entry that carries the balance after it. No balance falls
below zero or rises beyond what a row may hold.

* `Session.post` : the one way to change a balance;
* `Session.credit`, `Session.debit`, `Session.grant` : its uses;
* `Session.createUser` : a user, whose first balance is a grant;
* `Book.battleDelta`, `Session.battleDelta` : what a battle moved on a user's balance.
-/

namespace RaceBook

namespace Book

variable {R : Type}

/-- What the entries of a battle moved on a user's balance, one by one. -/
def battleAmounts (book : Book R) (user battle : Int) : List Int :=
  (book.ledger.rows.filter fun e => e.data.user = user ∧ e.data.battle = some battle).map
    (·.data.amount)

def battleDelta (book : Book R) (user battle : Int) : Int := sumOf (book.battleAmounts user battle)

end Book

namespace Session

variable {R : Type}

def user (id : Int) : Session R (Row User) := do
  demand ((← get).users.find? id) (.notFound (.user id))

def balance (userId : Int) : Session R Int := do
  return (← user userId).data.balance

/-- Refuses a battle that does not exist; an entry may also belong to none. -/
def checkReference (battle? : Option Int) : Session R Unit := do
  if let some id := battle? then
    check ((← get).battles.find? id).isSome (.constraint .reference)

/-- Moves a balance by `amount` and enters that in the ledger. -/
def post (userId amount : Int) (kind : EntryKind) (battle? : Option Int) (now : Moment) :
    Session R (Row Entry) := do
  checkRange amount
  let known ← user userId
  let after := known.data.balance + amount
  check (0 ≤ after) (.violation (.insufficientBalance userId known.data.balance kind amount))
  checkRange after
  modify fun book =>
    { book with users := book.users.modify userId ({ · with balance := after, updatedAt := now }) }
  checkReference battle?
  let entry : Entry := ⟨userId, battle?, kind, amount, after, now⟩
  let id := (← get).ledger.nextId
  modify fun book => { book with ledger := book.ledger.append entry }
  return ⟨id, entry⟩

/-- Adds to a balance. An entry of zero is made too. -/
def credit (userId amount : Int) (kind : EntryKind) (battle? : Option Int) (now : Moment) :
    Session R (Row Entry) := do
  check (0 ≤ amount) (.invalid (.creditAmount amount))
  post userId amount kind battle? now

def debit (userId amount : Int) (kind : EntryKind) (battle? : Option Int) (now : Moment) :
    Session R (Row Entry) := do
  check (0 ≤ amount) (.invalid (.debitAmount amount))
  post userId (-amount) kind battle? now

/-- Mints currency into a balance outside of any battle. -/
def grant (userId amount : Int) (now : Moment) : Session R (Row Entry) :=
  credit userId amount .grant none now

def addInRange (sum amount : Int) : Session R Int := do
  check (isStorable (sum + amount)) (.sumOutOfRange (sum + amount))
  return sum + amount

/-- What the entries of a battle add up to on a user's balance, if no sum on the way leaves the
range of what a row may hold. -/
def battleDelta (userId battleId : Int) : Session R Int := do
  (← read (·.battleAmounts userId battleId)).foldlM addInRange 0

def createUser (username : String) (startingBalance : Int) (now : Moment) :
    Session R (Row User) := do
  let username := Text.strip username
  check (username ≠ "") (.invalid .emptyUsername)
  let taken ← read (·.users.rows.any (·.data.username = username))
  check (!taken) (.constraint .uniqueUsername)
  let id := (← get).users.nextId
  modify fun book => { book with users := book.users.append ⟨username, 0, now, now⟩ }
  if 0 < startingBalance then
    let _ ← grant id startingBalance now
  user id

end Session

end RaceBook
