import RaceBook.Amount
import RaceBook.Race.Team
import RaceBook.Sorting

/-!
# Splitting a pool of stakes

The stakes on a battle form one pool. Who backed the victor gets the stake back and a share of
the losing side in proportion to it; all who backed a side nobody opposed, or a battle without
a victor, get their stakes back.

* `Pool.split` : the payouts of all stakes, in the order of the stakes;
* shares are whole: each is rounded down, and the units left over go one each to the largest
  remainders, the smaller wager first among equal ones (`ranked`).

A share belongs to a wager id. Where an id is listed twice the later stake decides its share.
-/

namespace RaceBook.Pool

structure Stake where
  wager : Int
  user : Int
  predicted : Team
  amount : Int
  deriving DecidableEq, Repr

structure Payout where
  wager : Int
  user : Int
  predicted : Team
  stake : Int
  paid : Int
  deriving DecidableEq, Repr

/-- The change of the balance since before the stake was placed. -/
def Payout.net (p : Payout) : Int := p.paid - p.stake

/-- The payouts of all stakes, and whether they only return the stakes. -/
structure Split where
  payouts : List Payout
  refunded : Bool
  deriving DecidableEq, Repr

structure BadStake where
  wager : Int
  amount : Int
  deriving DecidableEq, Repr

def Stake.resolve (s : Stake) (paid : Int) : Payout :=
  ⟨s.wager, s.user, s.predicted, s.amount, paid⟩

def total (stakes : List Stake) : Int := sumOf (stakes.map (·.amount))

def refund (stakes : List Stake) : Split := ⟨stakes.map fun s => s.resolve s.amount, true⟩

/-- The stakes without those whose wager id is listed again later. -/
def lastOfEach : List Stake → List Stake
  | [] => []
  | s :: rest => if rest.any (·.wager = s.wager) then lastOfEach rest else s :: lastOfEach rest

section Shares

/-! ## Shares

`losing` and `winning` are the sums of the stakes on either side, both positive. -/

variable (losing winning : Int)

/-- The share of a winning stake, rounded down. -/
def share (s : Stake) : Int := losing * s.amount / winning

/-- What rounding took from a share. -/
def remainder (s : Stake) : Int := losing * s.amount % winning

/-- Whether a stake comes before another when the units left over are handed out. -/
def precedes (s t : Stake) : Bool :=
  remainder losing winning t < remainder losing winning s ||
    (remainder losing winning s = remainder losing winning t && s.wager ≤ t.wager)

/-- The winning stakes in the order in which the units left over are handed out. -/
def ranked (winners : List Stake) : List Stake :=
  sortedBy (precedes losing winning) winners

def leftover (winners : List Stake) : Int :=
  losing - sumOf ((lastOfEach winners).map (share losing winning))

/-- The wagers that get a unit more. -/
def favoured (winners : List Stake) : List Int :=
  ((ranked losing winning winners).take (leftover losing winning winners).toNat).map (·.wager)

/-- What a wager gets beside its stake; none for a wager that did not win. -/
def award? (winners : List Stake) (wager : Int) : Option Int :=
  ((lastOfEach winners).find? (·.wager = wager)).map fun s =>
    share losing winning s + (favoured losing winning winners).count wager

end Shares

def backing (victor : Team) (stakes : List Stake) : List Stake :=
  stakes.filter (·.predicted = victor)

def against (victor : Team) (stakes : List Stake) : List Stake :=
  stakes.filter (·.predicted ≠ victor)

/-- The payouts when both sides have stakes. -/
def distribute (victor : Team) (stakes : List Stake) : Split :=
  let winners := backing victor stakes
  let award := award? (total (against victor stakes)) (total winners) winners
  ⟨stakes.map fun s => s.resolve (((award s.wager).map (s.amount + ·)).getD 0), false⟩

/-- The payouts of all stakes on a battle with the given victor, if any. -/
def split (victor : Option Team) (stakes : List Stake) : Except BadStake Split :=
  match stakes.find? (·.amount ≤ 0) with
  | some s => .error ⟨s.wager, s.amount⟩
  | none =>
    match victor with
    | none => .ok (refund stakes)
    | some team =>
      if total (backing team stakes) ≤ 0 ∨ total (against team stakes) ≤ 0 then .ok (refund stakes)
      else .ok (distribute team stakes)

end RaceBook.Pool
