import RaceBook.Wager

/-!
# Settlement

A battle that ended is settled once: its wagers are resolved by the victor, every payout is
credited, and a mark is left. Settling again pays nothing and gives the result that was recorded.

* `Resolution` : how the wagers of a battle were resolved;
* `Book.resolution?` : the resolution that is recorded for a settled battle;
* `Book.victorOf` : the victor by which a battle's wagers are resolved;
* `Session.settle`.
-/

namespace RaceBook

/-- How the wagers of a battle were resolved; without a victor the battle was void. -/
structure Resolution where
  battle : Int
  victor : Option Team
  payouts : List Pool.Payout
  /-- Whether an earlier settlement is repeated here. -/
  alreadySettled : Bool
  deriving DecidableEq

namespace Resolution

def isVoid (r : Resolution) : Bool := r.victor.isNone

def totalStaked (r : Resolution) : Int := sumOf (r.payouts.map (·.stake))

def totalPaid (r : Resolution) : Int := sumOf (r.payouts.map (·.paid))

end Resolution

def Row.stake (w : Row Wager) : Pool.Stake := ⟨w.id, w.data.user, w.data.victor, w.data.stake⟩

namespace Book

variable {R : Type}

/-- The payout of a wager as its ledger entry records it. -/
def recordedPayout? (book : Book R) (w : Row Wager) : Option Pool.Payout := do
  let entry ← book.ledger.find? (← w.data.settledBy)
  return w.stake.resolve entry.data.amount

/-- The resolution that a mark stands for. -/
def recorded (book : Book R) (mark : Settlement) : Resolution :=
  ⟨mark.battle, mark.victor, (book.wagersOn mark.battle).filterMap book.recordedPayout?, true⟩

def resolution? (book : Book R) (battle : Int) : Option Resolution :=
  (book.settlement? battle).map book.recorded

/-- The victor by which the wagers on a battle are resolved; a cancelled battle has none. -/
def victorOf (book : Book R) (found : Row Battle) : Option Team :=
  match found.data.status with
  | .cancelled => none
  | .ongoing | .concluded => victor ((book.participantsOf found.id).map (·.data.entrant))

/-- A mark added in the order of the battles. -/
def mark (book : Book R) (s : Settlement) : Book R :=
  { book with
    settlements :=
      book.settlements.takeWhile (·.battle < s.battle) ++
        s :: book.settlements.dropWhile (·.battle < s.battle) }

end Book

namespace Session

variable {R : Type}

def splitPool (victor : Option Team) (stakes : List Pool.Stake) : Session R Pool.Split :=
  match Pool.split victor stakes with
  | .ok split => pure split
  | .error bad => throw (.invalid (.poolStake bad))

/-- Credits one payout and notes the entry on its wager. -/
def pay (battleId : Int) (kind : EntryKind) (now : Moment) (payout : Pool.Payout) :
    Session R Unit := do
  let entry ← credit payout.user payout.paid kind (some battleId) now
  modify fun book =>
    { book with
      wagers := book.wagers.modify payout.wager ({ · with settledBy := some entry.id }) }

/-- Resolves the wagers on a battle that ended and is not settled yet. -/
def settleFirst (found : Row Battle) (now : Moment) : Session R Resolution := do
  let victor ← read (·.victorOf found)
  let pending ← read (·.unsettledOn found.id)
  let split ← splitPool victor (pending.map (·.stake))
  split.payouts.forM (pay found.id (if split.refunded then .refund else .payout) now)
  modify (·.mark ⟨found.id, victor, now⟩)
  return ⟨found.id, victor, split.payouts, false⟩

/-- Resolves the wagers on a battle, or repeats how they were resolved. -/
def settle (battleId : Int) (now : Moment) : Session R Resolution := do
  let found ← battle battleId
  check found.data.status.isTerminal (.notConcluded battleId)
  match ← read (·.resolution? battleId) with
  | some known => return known
  | none => settleFirst found now

end Session

end RaceBook
