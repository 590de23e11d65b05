import RaceBook.Settlement

/-!
# Settling several battles

Battles are settled one after the other, each on its own. One that does not exist or has not
ended is skipped.

* `Book.pendingBattles` : the battles that ended and are not settled yet;
* `Session.settleEach` : what comes of each battle of a list.
-/

namespace RaceBook

inductive BatchItem where
  | resolved (r : Resolution)
  | notFound (battle : Int) (what : Reference)
  | notConcluded (battle : Int)
  deriving DecidableEq

def BatchItem.isSkipped : BatchItem → Bool
  | .resolved _ => false
  | .notFound .. | .notConcluded _ => true

variable {R : Type}

/-- The battles that ended and are not settled yet, in ascending order. -/
def Book.pendingBattles (book : Book R) : List Int :=
  (book.battles.rows.filter fun b =>
    b.data.status.isTerminal && (book.settlement? b.id).isNone).map (·.id)

namespace Session

def settleOne (now : Moment) (battleId : Int) : Session R BatchItem := do
  match ← attempt (atomically (settle battleId now)) with
  | .ok r => return .resolved r
  | .error (.notFound what) => return .notFound battleId what
  | .error (.notConcluded _) => return .notConcluded battleId
  | .error fault => throw fault

def settleEach (now : Moment) (battleIds : List Int) : Session R (List BatchItem) :=
  battleIds.mapM (settleOne now)

end Session

end RaceBook
